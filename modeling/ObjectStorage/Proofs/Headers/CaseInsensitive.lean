import ObjectStorage.Proofs.Headers.History

/-!
# Headers without regard to case

As long as all names are of ASCII characters, headers are a map from names in small letters.  Their
list has each name once, in its canonical spelling, and is in the order of the bytes.
-/

namespace ObjectStorage

namespace Text

theorem encode_lt_encode {first second : List Char} (ascii : ∀ c ∈ first, c.toNat < 128)
    (other : ∀ c ∈ second, c.toNat < 128) (h : first < second) :
    Utf8.encode first < Utf8.encode second := by
  induction first generalizing second with
  | nil =>
      cases second with
      | nil => exact absurd h (List.lt_irrefl _)
      | cons d right =>
          have here := other d List.mem_cons_self
          rw [Utf8.encode, Utf8.encode, List.flatMap_nil, List.flatMap_cons,
            Percent.utf8_of_lt here]
          exact List.nil_lt_cons _ _
  | cons c left ih =>
      cases second with
      | nil => exact absurd h (List.not_lt_nil _)
      | cons d right =>
          obtain ⟨hc, left⟩ := List.forall_mem_cons.mp ascii
          obtain ⟨hd, right⟩ := List.forall_mem_cons.mp other
          rw [Utf8.encode, Utf8.encode, List.flatMap_cons, List.flatMap_cons,
            Percent.utf8_of_lt hc, Percent.utf8_of_lt hd, List.singleton_append,
            List.singleton_append, List.cons_lt_cons_iff]
          rcases List.cons_lt_cons_iff.mp h with before | ⟨rfl, further⟩
          · left
            rw [Char.lt_def, UInt32.lt_iff_toNat_lt] at before
            change c.toNat < d.toNat at before
            rw [UInt8.lt_iff_toNat_lt, UInt8.toNat_ofNat', UInt8.toNat_ofNat']
            omega
          · exact .inr ⟨rfl, ih left right further⟩

end Text

namespace Headers

open Text

structure Represents (headers : Headers) (plain : String → Option String) : Prop where
  get : ∀ name, IsAscii name → headers.get? name = plain (asciiLower name)
  contains : ∀ name, IsAscii name → headers.contains name = (plain (asciiLower name)).isSome
  size : ∃ names : List String, names.Nodup ∧ (∀ name, name ∈ names ↔ plain name ≠ none) ∧
    headers.size = names.length
  listed : ∀ key value, (key, value) ∈ headers.toList ↔
    ∃ name, plain name = some value ∧ canonicalName name = key
  increasing : headers.toList.Pairwise fun first second =>
    Utf8.ofText first.1 < Utf8.ofText second.1

namespace History

variable {history : History}

theorem HasAsciiNames.size_eq (ascii : history.HasAsciiNames) :
    ∃ names : List String, names.Nodup ∧ (∀ name, name ∈ names ↔ history.plain name ≠ none) ∧
      history.headers.size = names.length := by
  have mirrors := History.headers_mirrors_plain ascii
  refine ⟨_, ascii.nodup_names, ?_, ?_⟩
  · intro name
    rw [List.mem_map, Option.ne_none_iff_exists']
    constructor
    · rintro ⟨⟨key, value⟩, hentry, rfl⟩
      obtain ⟨isAscii, -, held⟩ := ascii.mem_toList_iff.mp hentry
      exact ⟨value, by rw [← mirrors.get key isAscii, held]⟩
    · rintro ⟨value, held⟩
      obtain ⟨isAscii, small⟩ := mirrors.small name (by simp [held])
      refine ⟨(canonicalName name, value), ascii.mem_toList_iff_plain.mpr ⟨name, held, rfl⟩, ?_⟩
      dsimp only
      rw [(areRecased_canonicalName isAscii).asciiLower_eq, small]
  · rw [List.length_map]
    rfl

/-- Headers whose names are of ASCII characters take no account of case. -/
theorem represents_plain (ascii : history.HasAsciiNames) :
    history.headers.Represents history.plain where
  get := (History.headers_mirrors_plain ascii).get
  contains name isAscii := by
    rw [contains_eq, (History.headers_mirrors_plain ascii).get name isAscii]
  listed _ _ := ascii.mem_toList_iff_plain
  size := ascii.size_eq
  increasing := by
    refine history.headers.entries.sorted.imp_of_mem ?_
    intro first second hfirst hsecond before
    refine encode_lt_encode ?_ ?_ (String.lt_iff.mp before)
    · exact (ascii.canonicalName_eq_of_mem (List.mem_map_of_mem hfirst)).1
    · exact (ascii.canonicalName_eq_of_mem (List.mem_map_of_mem hsecond)).1

/-- Two spellings of a name are one entry, which is erased under a third. -/
theorem represents_plain_of_mixed :
    ∃ history : History,
      history.names = ["Etag", "x--9y", "X-Object-Meta-color", "eTag", "ETAG"] ∧
      history.headers.toList = [("X--9y", "A"), ("X-Object-Meta-Color", "red")] ∧
      history.HasAsciiNames ∧ history.headers.Represents history.plain := by
  refine ⟨.changed (.extended (.changed (.ofList [("eTag", "a"), ("ETAG", "b")])
    (.setMetadata .object "color" "red")) (.ofFields (.ofList [("x--9y", ⟨[65], [[66]]⟩)])))
    (.eraseField ObjectField.etag), ?_, ?_, ?_, ?_⟩
  · decide
  · decide
  · decide
  · exact represents_plain (by decide)

end History

end Headers

end ObjectStorage
