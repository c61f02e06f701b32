import ObjectStorage.Proofs.Headers.History
import ObjectStorage.Proofs.Headers.Recasing

/-!
# Headers under their own names

An entry is found under the name that it is listed under if the spelling of that name is the name
itself.  This is so unless a word of the given name begins with a character whose capital is several
characters with a capital after the first, like `ß`, which is spelled `SS`: the spelling of `SS` is
`Ss`, and so the entry is not found under `SS`.
-/

namespace ObjectStorage.Headers

open Text

/-! ## Names that keep their spelling -/

/-- The character is a first character, if such count, or comes right after a hyphen. -/
def StartsWord (capital : Bool) (text : List Char) (c : Char) : Prop :=
  ∃ before after, text = before ++ c :: after ∧
    (before = [] ∧ capital = true ∨ before.getLast? = some '-')

/-- No word begins with a character whose capital goes on with another capital. -/
def KeepsSpelling (name : String) : Prop :=
  ∀ c, StartsWord true name.toList c → ∀ d ∈ (upperCase c).tail, lowerCase d = [d]

variable {capital : Bool} {c : Char} {rest tail : List Char}

theorem startsWord_cons_iff {d : Char} :
    StartsWord capital (c :: rest) d ↔ capital = true ∧ d = c ∨ StartsWord (c = '-') rest d := by
  constructor
  · rintro ⟨before, after, split, start⟩
    cases before with
    | nil =>
        obtain ⟨rfl, rfl⟩ := List.cons.inj split
        rcases start with ⟨-, capital⟩ | hyphen
        · exact .inl ⟨capital, rfl⟩
        · exact nomatch hyphen
    | cons first before =>
        obtain ⟨rfl, rfl⟩ := List.cons.inj split
        refine .inr ⟨before, after, rfl, ?_⟩
        rcases start with ⟨empty, -⟩ | hyphen
        · exact nomatch empty
        · cases before with
          | nil => exact .inl ⟨rfl, by simpa using hyphen⟩
          | cons second before => exact .inr hyphen
  · rintro (⟨rfl, rfl⟩ | ⟨before, after, rfl, start⟩)
    · exact ⟨[], rest, rfl, .inl ⟨rfl, rfl⟩⟩
    · refine ⟨c :: before, after, rfl, .inr ?_⟩
      rcases start with ⟨rfl, hyphen⟩ | hyphen
      · simpa using hyphen
      · rw [List.getLast?_cons, hyphen]
        rfl

private theorem canonical_append (plain : ∀ e ∈ tail, e ≠ '-') :
    canonical false (tail ++ rest) = tail.flatMap lowerCase ++ canonical false rest := by
  induction tail with
  | nil => rfl
  | cons e tail ih =>
      obtain ⟨here, further⟩ := List.forall_mem_cons.mp plain
      rw [List.cons_append, canonical_cons, decide_eq_false here, ih further, List.flatMap_cons,
        List.append_assoc]
      rfl

theorem flatMap_lowerCase_eq_iff (single : ∀ e ∈ tail, (lowerCase e).length = 1) :
    tail.flatMap lowerCase = tail ↔ ∀ e ∈ tail, lowerCase e = [e] := by
  induction tail with
  | nil => simp
  | cons e tail ih =>
      obtain ⟨here, further⟩ := List.forall_mem_cons.mp single
      obtain ⟨d, image⟩ := List.length_eq_one_iff.mp here
      rw [List.flatMap_cons, image, List.singleton_append, List.cons.injEq, ih further,
        List.forall_mem_cons, image, List.cons.injEq, and_iff_left rfl]

private theorem length_flatMap_lowerCase (single : ∀ e ∈ tail, (lowerCase e).length = 1) :
    (tail.flatMap lowerCase).length = tail.length := by
  rw [List.length_flatMap, List.map_congr_left single]
  simp

private theorem canonical_image {d : Char} (image : IsImage capital c d tail) :
    canonical capital (d :: tail ++ rest) =
      d :: (tail.flatMap lowerCase ++ canonical (c = '-') rest) := by
  rw [List.cons_append, canonical_cons, image.stays, List.singleton_append]
  cases tail with
  | nil =>
      rw [List.nil_append, List.flatMap_nil, List.nil_append]
      simp only [image.hyphen]
  | cons e others =>
      have ne : c ≠ '-' := (image.others e List.mem_cons_self).1
      rw [decide_eq_false (image.hyphen.not.mpr ne), decide_eq_false ne,
        canonical_append fun e he => (image.others e he).2.1]

/-- Only the characters after the first of an image can change, and none of them becomes several, so
that the rest of the text stays in its place. -/
theorem canonical_cons_again_iff {d : Char} (become : cased capital c = d :: tail)
    (image : IsImage capital c d tail) :
    canonical capital (canonical capital (c :: rest)) = canonical capital (c :: rest) ↔
      (∀ e ∈ tail, lowerCase e = [e]) ∧
        canonical (c = '-') (canonical (c = '-') rest) = canonical (c = '-') rest := by
  have single : ∀ e ∈ tail, (lowerCase e).length = 1 := fun e he => (image.others e he).2.2
  rw [canonical_cons, become, canonical_image image, List.cons_append, List.cons.injEq,
    and_iff_right rfl, ← flatMap_lowerCase_eq_iff single]
  constructor
  · intro h
    exact List.append_inj h (length_flatMap_lowerCase single)
  · rintro ⟨left, right⟩
    rw [left, right]

theorem canonical_canonical_iff (capital : Bool) (text : List Char) :
    canonical capital (canonical capital text) = canonical capital text ↔
      ∀ c, StartsWord capital text c → ∀ d ∈ (upperCase c).tail, lowerCase d = [d] := by
  induction text generalizing capital with
  | nil =>
      refine iff_of_true rfl ?_
      rintro c ⟨before, after, split, -⟩
      exact absurd split.symm (by simp)
  | cons c rest ih =>
      obtain ⟨d, tail, become, image⟩ := cased_image capital c
      have here : (∀ e ∈ tail, lowerCase e = [e]) ↔
          (capital = true → ∀ e ∈ (upperCase c).tail, lowerCase e = [e]) := by
        cases capital with
        | false => exact iff_of_true (image.small rfl) nofun
        | true =>
            have same : upperCase c = d :: tail := become
            rw [same, List.tail_cons]
            exact ⟨fun h _ => h, fun h => h rfl⟩
      rw [canonical_cons_again_iff become image, here, ih]
      simp only [startsWord_cons_iff]
      constructor
      · rintro ⟨here, further⟩ e (⟨capital, rfl⟩ | start)
        · exact here capital
        · exact further e start
      · intro h
        exact ⟨fun capital => h c (.inl ⟨capital, rfl⟩), fun e start => h e (.inr start)⟩

theorem canonicalName_canonicalName_iff (name : String) :
    canonicalName (canonicalName name) = canonicalName name ↔ KeepsSpelling name := by
  rw [KeepsSpelling, ← canonical_canonical_iff, ← String.toList_inj, canonicalName,
    String.toList_ofList, canonicalName, String.toList_ofList]

instance (name : String) : Decidable (KeepsSpelling name) :=
  decidable_of_iff _ (canonicalName_canonicalName_iff name)

/-! ## Metadata under their own keys -/

private theorem eq_append_of_after? {beginning text after : List Char}
    (h : Text.after? beginning text = some after) : text = beginning ++ after := by
  induction beginning generalizing text with
  | nil =>
      cases h
      rfl
  | cons c beginning ih =>
      cases text with
      | nil => exact nomatch h
      | cons d text =>
          simp only [Text.after?] at h
          split at h
          · next same => rw [same, ih h, List.cons_append]
          · exact nomatch h

theorem eq_metadataName {kind : Kind} {name key : String} (h : metadataKey? kind name = some key) :
    name = metadataName kind key := by
  have start : canonicalName kind.metadataStart = kind.metadataStart := by
    cases kind <;> decide
  unfold metadataKey? at h
  split at h
  · exact nomatch h
  · exact nomatch h
  · next after found =>
    cases h
    apply String.toList_injective
    rw [eq_append_of_after? found, start, metadataName, String.toList_append,
      String.toList_ofList]

theorem mem_metadataList_iff {headers : Headers} {kind : Kind} {key value : String} :
    (key, value) ∈ headers.metadataList kind ↔
      ∃ name, (name, value) ∈ headers.toList ∧ metadataKey? kind name = some key := by
  rw [metadataList, List.mem_filterMap]
  constructor
  · rintro ⟨⟨name, held⟩, hentry, h⟩
    obtain ⟨other, hkey, same⟩ := Option.map_eq_some_iff.mp h
    cases same
    exact ⟨name, hentry, hkey⟩
  · rintro ⟨name, hentry, hkey⟩
    exact ⟨(name, value), hentry, by rw [hkey]; rfl⟩

theorem text_of_get? {headers : Headers} {name value : String}
    (h : headers.get? name = some value) :
    headers.text name = if value = "" then .empty else .value value := by
  unfold text
  rw [h]
  split
  · contradiction
  · next same =>
    cases same
    rfl
  · next other same =>
    cases same
    rw [if_neg]
    rintro rfl
    exact other rfl

/-! ## Entries under their own names -/

/-- The entry is held, and alone, under the name that it is listed under. -/
structure IsReached (headers : Headers) (key value : String) : Prop where
  own : canonicalName key = key
  get : headers.get? key = some value
  contains : headers.contains key = true
  erase : (headers.erase key).toList = headers.toList.filter (· ≠ (key, value))

private theorem isReached_iff_own {headers : Headers} {key value : String}
    (h : (key, value) ∈ headers.toList) :
    headers.IsReached key value ↔ canonicalName key = key := by
  refine ⟨IsReached.own, fun own => ?_⟩
  have held : headers.get? key = some value := by
    rw [get?, own]
    exact (headers.entries.get?_eq_some_iff _ _).mpr h
  refine ⟨own, held, by rw [contains_eq, held, Option.isSome_some], ?_⟩
  change headers.toList.filter (fun entry => entry.1 != canonicalName key) = _
  rw [own]
  apply List.filter_congr
  intro entry hentry
  have alone : entry.1 = key ↔ entry = (key, value) := by
    refine ⟨fun same => Dictionary.eq_of_key_eq hentry h same, ?_⟩
    rintro rfl
    rfl
  rw [Bool.eq_iff_iff, bne_iff_ne, decide_eq_true_iff, ne_eq, ne_eq, alone]

/-- Some name with this spelling was given that keeps its spelling. -/
def History.Keeps (history : History) (key : String) : Prop :=
  ∃ name ∈ history.names, KeepsSpelling name ∧ canonicalName name = key

theorem History.keeps_iff {history : History} {key : String}
    (h : key ∈ history.headers.entries.keys) : history.Keeps key ↔ canonicalName key = key := by
  constructor
  · rintro ⟨name, -, keeps, rfl⟩
    exact (canonicalName_canonicalName_iff name).mpr keeps
  · intro own
    obtain ⟨name, hname, rfl⟩ := history.exists_name h
    exact ⟨name, hname, (canonicalName_canonicalName_iff name).mp own, rfl⟩

/-- The entries that are reached under their own names are those of names that keep their spelling,
and so it is with metadata. -/
theorem reached_by_own_names (history : History) :
    (∀ key value, (key, value) ∈ history.headers.toList →
      (history.headers.IsReached key value ↔ history.Keeps key)) ∧
    ∀ kind key value, (key, value) ∈ history.headers.metadataList kind →
      history.Keeps (metadataName kind key) →
        history.headers.metadata kind key = if value = "" then .empty else .value value := by
  constructor
  · intro key value h
    rw [isReached_iff_own h, History.keeps_iff (List.mem_map_of_mem h)]
  · intro kind key value h keeps
    obtain ⟨name, hentry, hkey⟩ := mem_metadataList_iff.mp h
    obtain rfl := eq_metadataName hkey
    have own := (History.keeps_iff (List.mem_map_of_mem hentry)).mp keeps
    exact text_of_get? ((isReached_iff_own hentry).mpr own).get

theorem reached_by_own_names_inside_word :
    IsReached (History.headers (.ofList [("weiß-x", "v"), ("ß", "w")])) "Weiß-X" "v" :=
  ((reached_by_own_names _).1 _ _ (by decide +kernel)).mpr
    ⟨"weiß-x", by decide, by decide +kernel, by decide +kernel⟩

/-- A value set under `ß` is listed under `SS` and not found there. -/
theorem not_reached_by_own_names :
    ¬∀ (history : History) (key value : String), (key, value) ∈ history.headers.toList →
      history.headers.get? key = some value := by
  intro h
  have found := h (.changed .empty (.set "ß" "v")) "SS" "v" (by decide +kernel)
  revert found
  decide +kernel

end ObjectStorage.Headers
