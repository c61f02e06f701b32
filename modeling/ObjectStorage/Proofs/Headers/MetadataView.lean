import ObjectStorage.Proofs.Headers.CaseInsensitive
import ObjectStorage.Proofs.Headers.OwnNames

/-!
# Metadata under their keys

The spelling of a name is that of its key after the start that the kind fixes, as the start ends in
a hyphen.  So the list of the metadata has the keys in their spelling, each with what is read under
it, and what is done to the metadata under one key is not seen under another.
-/

namespace ObjectStorage

namespace Text

private theorem lt_of_append_lt_append {start first second : List Char}
    (h : start ++ first < start ++ second) : first < second := by
  induction start with
  | nil => exact h
  | cons c start ih =>
      rcases List.cons_lt_cons_iff.mp h with before | ⟨-, further⟩
      · exact absurd before Std.lt_irrefl
      · exact ih further

private theorem after?_append (beginning text : List Char) :
    after? beginning (beginning ++ text) = some text := by
  induction beginning with
  | nil => rfl
  | cons c beginning ih => rw [List.cons_append, after?, if_pos rfl, ih]

private theorem isAscii_of_asciiLower {text : String} (h : IsAscii (asciiLower text)) :
    IsAscii text := by
  intro c hc
  by_contra beyond
  have kept : c ∈ (asciiLower text).toList := by
    rw [toList_asciiLower, ← small_of_beyond (Nat.le_of_not_lt beyond)]
    exact List.mem_map_of_mem hc
  exact beyond (h c kept)

end Text

namespace Headers

open Text

variable {headers : Headers} {kind : Kind} {name key value : String}

/-! ## Spellings of keys -/

private theorem canonical_append_hyphen (capital : Bool) (before after : List Char) :
    canonical capital (before ++ '-' :: after) =
      canonical capital (before ++ ['-']) ++ canonical true after := by
  induction before generalizing capital with
  | nil =>
      rw [List.nil_append, List.nil_append, canonical_cons, canonical_cons, decide_eq_true rfl,
        List.append_assoc]
      rfl
  | cons c before ih =>
      rw [List.cons_append, List.cons_append, canonical_cons, canonical_cons, ih, List.append_assoc]

theorem canonicalName_metadataName (kind : Kind) (key : String) :
    canonicalName (metadataName kind key) = kind.metadataStart ++ canonicalName key := by
  obtain ⟨before, start, own⟩ : ∃ before, kind.metadataStart.toList = before ++ ['-'] ∧
      canonical true (before ++ ['-']) = before ++ ['-'] := by
    cases kind with
    | account => exact ⟨"X-Account-Meta".toList, by decide, by decide⟩
    | container => exact ⟨"X-Container-Meta".toList, by decide, by decide⟩
    | object => exact ⟨"X-Object-Meta".toList, by decide, by decide⟩
  apply String.toList_injective
  rw [canonicalName, metadataName, String.toList_ofList, String.toList_append, start,
    List.append_assoc, List.singleton_append, canonical_append_hyphen, own, String.toList_append,
    start, canonicalName, String.toList_ofList]

private theorem isAscii_metadataName (kind : Kind) (ascii : IsAscii key) :
    IsAscii (metadataName kind key) := by
  have start : IsAscii kind.metadataStart := by
    cases kind <;> decide
  intro c hc
  rw [metadataName, String.toList_append] at hc
  exact (List.mem_append.mp hc).elim (start c) (ascii c)

private theorem canonicalName_ne_empty (h : key ≠ "") : canonicalName key ≠ "" := by
  intro empty
  have none := congrArg String.toList empty
  rw [canonicalName, String.toList_ofList] at none
  cases text : key.toList with
  | nil => exact h (String.toList_eq_nil_iff.mp text)
  | cons c rest =>
      obtain ⟨d, tail, image, -⟩ := cased_image true c
      rw [text, canonical_cons, image] at none
      exact List.cons_ne_nil _ _ none

theorem metadataKey?_eq_some_iff :
    metadataKey? kind name = some key ↔ key ≠ "" ∧ name = metadataName kind key := by
  constructor
  · intro h
    refine ⟨?_, eq_metadataName h⟩
    rintro rfl
    unfold metadataKey? at h
    split at h
    · exact nomatch h
    · exact nomatch h
    · next some _ =>
      refine some ?_
      have := congrArg String.toList (Option.some.inj h)
      rwa [String.toList_ofList] at this
  · rintro ⟨some, rfl⟩
    have start : canonicalName kind.metadataStart = kind.metadataStart := by
      cases kind <;> decide
    unfold metadataKey?
    rw [start, metadataName, String.toList_append, after?_append]
    cases text : key.toList with
    | nil => exact absurd (String.toList_eq_nil_iff.mp text) some
    | cons c rest =>
        dsimp only
        rw [← text, String.ofList_toList]

/-! ## What is read and what is listed -/

/-- How a header with the text is read. -/
def readingOf (text : String) : Reading String := if text = "" then .empty else .value text

private theorem readingOf_ne_absent (text : String) : readingOf text ≠ .absent := by
  unfold readingOf
  split <;> exact nofun

private theorem readingOf_injective {first second : String}
    (h : readingOf first = readingOf second) :
    first = second := by
  unfold readingOf at h
  split at h
  · next empty =>
    split at h
    · next alike => rw [empty, alike]
    · exact nomatch h
  · split at h
    · exact nomatch h
    · exact Reading.value.inj h

theorem text_eq_readingOf_iff :
    headers.text name = readingOf value ↔ headers.get? name = some value := by
  refine ⟨fun h => ?_, text_of_get?⟩
  cases held : headers.get? name with
  | none =>
      rw [text, held] at h
      exact absurd h.symm (readingOf_ne_absent value)
  | some other =>
      rw [text_of_get? held] at h
      exact congrArg some (readingOf_injective h)

private theorem mem_metadataList_of_metadata {given : String} (some : given ≠ "")
    (held : headers.metadata kind given = readingOf value) :
    (canonicalName given, value) ∈ headers.metadataList kind := by
  rw [metadata, text_eq_readingOf_iff, get?, canonicalName_metadataName] at held
  refine mem_metadataList_iff.mpr ⟨_, (headers.entries.get?_eq_some_iff _ _).mp held, ?_⟩
  exact metadataKey?_eq_some_iff.mpr ⟨canonicalName_ne_empty some, rfl⟩

namespace History

variable {history : History}

theorem HasAsciiNames.reading_of_mem_metadataList (ascii : history.HasAsciiNames)
    (h : (key, value) ∈ history.headers.metadataList kind) :
    key ≠ "" ∧ IsAscii key ∧ canonicalName key = key ∧
      history.headers.metadata kind key = readingOf value := by
  obtain ⟨name, hentry, hkey⟩ := mem_metadataList_iff.mp h
  obtain ⟨some, rfl⟩ := metadataKey?_eq_some_iff.mp hkey
  obtain ⟨isAscii, own, held⟩ := ascii.mem_toList_iff.mp hentry
  refine ⟨some, fun c hc => isAscii c ?_, ?_, text_eq_readingOf_iff.mpr held⟩
  · rw [metadataName, String.toList_append]
    exact List.mem_append_right _ hc
  · rw [canonicalName_metadataName, metadataName] at own
    exact String.append_right_inj _ |>.mp own

theorem HasAsciiNames.metadataList_pairwise (ascii : history.HasAsciiNames) (kind : Kind) :
    (history.headers.metadataList kind).Pairwise fun first second =>
      Utf8.ofText first.1 < Utf8.ofText second.1 := by
  rw [metadataList, List.pairwise_filterMap]
  refine history.headers.entries.sorted.imp_of_mem ?_
  rintro ⟨name, value⟩ ⟨next, further⟩ hfirst hsecond before entry first other second
  obtain ⟨key, hkey, rfl⟩ := Option.map_eq_some_iff.mp first
  obtain ⟨later, hlater, rfl⟩ := Option.map_eq_some_iff.mp second
  have listed := ascii.reading_of_mem_metadataList (mem_metadataList_iff.mpr ⟨name, hfirst, hkey⟩)
  have others :=
    ascii.reading_of_mem_metadataList (mem_metadataList_iff.mpr ⟨next, hsecond, hlater⟩)
  obtain ⟨-, rfl⟩ := metadataKey?_eq_some_iff.mp hkey
  obtain ⟨-, rfl⟩ := metadataKey?_eq_some_iff.mp hlater
  rw [String.lt_iff, metadataName, metadataName, String.toList_append, String.toList_append]
    at before
  exact encode_lt_encode listed.2.1 others.2.1 (lt_of_append_lt_append before)

end History

theorem metadata_eq_of_asciiLower {other : String} (ascii : IsAscii key)
    (same : asciiLower other = asciiLower key) :
    headers.metadata kind other = headers.metadata kind key := by
  have isAscii : IsAscii other :=
    isAscii_of_asciiLower (same ▸ (areRecased_asciiLower ascii).isAscii)
  have spelled := (canonicalName_eq_iff isAscii ascii).mpr same
  rw [metadata, metadata, text, text, get?, get?, canonicalName_metadataName, spelled,
    canonicalName_metadataName]

/-! ## Changes under one key -/

/-- The operations on the metadata under a key. -/
inductive Change.IsMetadata (kind : Kind) (key : String) : Change → Prop
  | set (value : String) : IsMetadata kind key (.setMetadata kind key value)
  | clear : IsMetadata kind key (.clearMetadata kind key)
  | erase : IsMetadata kind key (.eraseMetadata kind key)

private theorem Change.IsMetadata.name_eq {change : Change} (h : change.IsMetadata kind key) :
    change.name = metadataName kind key := by
  cases h <;> rfl

private theorem mem_toList_apply {change : Change} (h : name ≠ canonicalName change.name) :
    (name, value) ∈ (change.apply headers).toList ↔ (name, value) ∈ headers.toList := by
  have kept : (change.apply headers).entries.get? name = headers.entries.get? name := by
    cases change with
    | erase | eraseField | eraseMetadata =>
        exact (headers.entries.get?_erase _ _).trans (if_neg h)
    | _ => exact (headers.entries.get?_insert _ _ _).trans (if_neg h)
  rw [toList, toList, ← Dictionary.get?_eq_some_iff, ← Dictionary.get?_eq_some_iff, kept]

/-- The list of the metadata of a kind shows what is read under its keys, each once. -/
structure ShowsMetadata (headers : Headers) (kind : Kind) : Prop where
  increasing : (headers.metadataList kind).Pairwise fun first second =>
    Utf8.ofText first.1 < Utf8.ofText second.1
  listed : ∀ key value, (key, value) ∈ headers.metadataList kind ↔
    ∃ given, given ≠ "" ∧ canonicalName given = key ∧
      headers.metadata kind given = readingOf value
  anyCase : ∀ key value, (key, value) ∈ headers.metadataList kind →
    ∀ other, asciiLower other = asciiLower key →
      headers.metadata kind other = readingOf value

/--
Under ASCII names the list of the metadata has each key that holds something, in its spelling and in
the order of the bytes, and what it holds is read under any case of the key.  The spelling of a name
is made of that of its key, and an operation on one key leaves all other headers as they are.
-/
theorem metadata_faithful (history : History) (ascii : history.HasAsciiNames) (kind : Kind) :
    history.headers.ShowsMetadata kind ∧
    (∀ key, canonicalName (metadataName kind key) = kind.metadataStart ++ canonicalName key) ∧
    ∀ key change, IsAscii key → Change.IsMetadata kind key change →
      (∀ name, IsAscii name → asciiLower name ≠ asciiLower (metadataName kind key) →
        (change.apply history.headers).get? name = history.headers.get? name) ∧
      ∀ name value, asciiLower name ≠ asciiLower (metadataName kind key) →
        ((name, value) ∈ (change.apply history.headers).toList ↔
          (name, value) ∈ history.headers.toList) := by
  refine ⟨⟨ascii.metadataList_pairwise kind, fun key value => ⟨fun h => ?_, ?_⟩, ?_⟩,
    canonicalName_metadataName kind, fun key change isAscii operation => ?_⟩
  · obtain ⟨some, -, own, held⟩ := ascii.reading_of_mem_metadataList h
    exact ⟨key, some, own, held⟩
  · rintro ⟨given, some, rfl, held⟩
    exact mem_metadataList_of_metadata some held
  · intro key value h other same
    obtain ⟨-, isAscii, -, held⟩ := ascii.reading_of_mem_metadataList h
    rw [metadata_eq_of_asciiLower isAscii same, held]
  · have whole := isAscii_metadataName kind isAscii
    rw [← operation.name_eq] at whole ⊢
    refine ⟨fun name other ne => ?_, fun name value ne => mem_toList_apply ?_⟩
    · rw [get?_apply, if_neg ((canonicalName_eq_iff other whole).not.mpr ne)]
    · rintro rfl
      exact ne (areRecased_canonicalName whole).asciiLower_eq

/-- The header without a key is not listed, and one without text is read as such. -/
theorem metadata_faithful_spare_keys :
    ∃ history : History, history.names =
        ["X-Object-Meta-", "X-Object-Meta-x-RAY", "X-OBJECT-meta-x-ray", "X-Object-Meta-color"] ∧
      history.headers.metadataList .object = [("Color", ""), ("X-Ray", "9")] ∧
      history.headers.metadata .object "cOLOR" = .empty ∧
      history.headers.metadata .object "x-rAY" = .value "9" := by
  let history : History := .changed (.changed (.changed (.changed .empty
    (.clearMetadata .object "color")) (.set "X-OBJECT-meta-x-ray" "8"))
    (.setMetadata .object "x-RAY" "9")) (.setMetadata .object "" "z")
  have ascii : history.HasAsciiNames := by decide
  have all : history.headers.metadataList .object = [("Color", ""), ("X-Ray", "9")] := by
    decide +kernel
  have shows := (metadata_faithful history ascii .object).1
  refine ⟨history, by decide, all, ?_, ?_⟩
  · exact shows.anyCase "Color" "" (by simp [all]) "cOLOR" (by decide)
  · exact shows.anyCase "X-Ray" "9" (by simp [all]) "x-rAY" (by decide)

end Headers

end ObjectStorage
