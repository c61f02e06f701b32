import Mathlib.Logic.Function.Basic
import ObjectStorage.Headers.Metadata
import ObjectStorage.Options
import ObjectStorage.Proofs.Distinct
import ObjectStorage.Proofs.Headers.Spelling
import ObjectStorage.Proofs.Text.Escaped

/-!
# How headers come about

A history is a sequence of the operations by which headers come about.  As long as all names are of
ASCII characters, the headers hold what a map from names in small letters holds after the same
operations.
-/

namespace ObjectStorage

namespace Headers

open Text

/-! ## Histories -/

inductive Change : Type 1
  | set (name value : String)
  | erase (name : String)
  | withHeader (name value : String)
  | setField {α : Type} (field : SettableField α) (value : α)
  | clearField {α : Type} (field : SettableField α)
  | eraseField {α : Type} (field : SettableField α)
  | setMetadata (kind : Kind) (key value : String)
  | clearMetadata (kind : Kind) (key : String)
  | eraseMetadata (kind : Kind) (key : String)

namespace Change

def apply (headers : Headers) : Change → Headers
  | .set name value => headers.set name value
  | .erase name => headers.erase name
  | .withHeader name value => (headers.toOptions.withHeader name value).headers
  | .setField field value => field.set value headers
  | .clearField field => field.clear headers
  | .eraseField field => field.erase headers
  | .setMetadata kind key value => headers.setMetadata kind key value
  | .clearMetadata kind key => headers.clearMetadata kind key
  | .eraseMetadata kind key => headers.eraseMetadata kind key

def name : Change → String
  | .set name _ | .erase name | .withHeader name _ => name
  | .setField field _ | .clearField field | .eraseField field => field.name
  | .setMetadata kind key _ | .clearMetadata kind key | .eraseMetadata kind key =>
      metadataName kind key

/-- What the name holds afterwards, if anything. -/
def value? : Change → Option String
  | .set _ value | .withHeader _ value | .setMetadata _ _ value => some value
  | .setField field value => some (field.write value)
  | .clearField _ | .clearMetadata _ _ => some ""
  | .erase _ | .eraseField _ | .eraseMetadata _ _ => none

end Change

/-- Puts the values into a map, one after the other, under their names in small letters. -/
def putAll (plain : String → Option String) (entries : List (String × String)) :
    String → Option String :=
  entries.foldl (fun plain entry => Function.update plain (asciiLower entry.1) (some entry.2)) plain

/-- How headers came about; what came before is the first argument. -/
inductive History : Type 1
  | empty
  | ofList (entries : List (String × String))
  | ofFields (fields : Http.Fields)
  | changed (before : History) (change : Change)
  | extended (before others : History)

namespace History

def headers : History → Headers
  | .empty => .empty
  | .ofList entries => .ofList entries
  | .ofFields fields => .ofFields fields
  | .changed before change => change.apply before.headers
  | .extended before others => before.headers.extend others.headers

def names : History → List String
  | .empty => []
  | .ofList entries => entries.map (·.1)
  | .ofFields fields => fields.keys
  | .changed before change => change.name :: before.names
  | .extended before others => others.names ++ before.names

/-- The names are of ASCII characters, and those of fields are such as stand on the wire. -/
def HasAsciiNames : History → Prop
  | .empty => True
  | .ofList entries => ∀ entry ∈ entries, IsAscii entry.1
  | .ofFields fields => fields.AreNamed
  | .changed before change => before.HasAsciiNames ∧ IsAscii change.name
  | .extended before others => before.HasAsciiNames ∧ others.HasAsciiNames

def decideAsciiNames : (history : History) → Decidable history.HasAsciiNames
  | .empty => inferInstanceAs (Decidable True)
  | .ofList entries => inferInstanceAs (Decidable (∀ entry ∈ entries, IsAscii entry.1))
  | .ofFields fields =>
      inferInstanceAs (Decidable (∀ name ∈ fields.keys, Http.fieldName? name = some name))
  | .changed before _ => @instDecidableAnd _ _ before.decideAsciiNames inferInstance
  | .extended before others =>
      @instDecidableAnd _ _ before.decideAsciiNames others.decideAsciiNames

instance (history : History) : Decidable history.HasAsciiNames := history.decideAsciiNames

/-- What a map from names in small letters holds after the same operations. -/
def plain : History → String → Option String
  | .empty => fun _ => none
  | .ofList entries => putAll (fun _ => none) entries
  | .ofFields fields => fun name => (fields.first? name).map Utf8.decodeLossy
  | .changed before change => Function.update before.plain (asciiLower change.name) change.value?
  | .extended before others => fun name => (others.plain name).or (before.plain name)

end History

/-! ## Look-ups after each operation -/

theorem contains_eq (headers : Headers) (name : String) :
    headers.contains name = (headers.get? name).isSome := rfl

theorem get?_erase (headers : Headers) (name wanted : String) :
    (headers.erase name).get? wanted =
      if canonicalName wanted = canonicalName name then none else headers.get? wanted :=
  headers.entries.get?_erase _ _

theorem get?_apply (headers : Headers) (change : Change) (wanted : String) :
    (change.apply headers).get? wanted =
      if canonicalName wanted = canonicalName change.name then change.value?
      else headers.get? wanted := by
  cases change with
  | erase | eraseField | eraseMetadata => exact headers.get?_erase _ wanted
  | _ => exact headers.get?_set _ _ wanted

theorem get?_extend (headers others : Headers) (wanted : String) :
    (headers.extend others).get? wanted = (others.get? wanted).or (headers.get? wanted) :=
  headers.entries.get?_insertAll others.entries.nodup_keys _

private theorem mem_keys_apply {headers : Headers} {change : Change} {key : String}
    (h : key ∈ (change.apply headers).entries.keys) :
    key = canonicalName change.name ∨ key ∈ headers.entries.keys := by
  cases change with
  | erase | eraseField | eraseMetadata => exact .inr (Dictionary.mem_keys_erase h)
  | _ => exact Dictionary.mem_keys_insert h

private theorem mem_keys_setAll {headers : Headers} {entries : List (String × String)}
    {key : String} (h : key ∈ (headers.setAll entries).entries.keys) :
    (∃ entry ∈ entries, canonicalName entry.1 = key) ∨ key ∈ headers.entries.keys := by
  induction entries generalizing headers with
  | nil => exact .inr h
  | cons entry rest ih =>
      rcases ih h with ⟨other, hother, spelled⟩ | held
      · exact .inl ⟨other, List.mem_cons_of_mem _ hother, spelled⟩
      · rcases Dictionary.mem_keys_insert held with rfl | held
        · exact .inl ⟨entry, List.mem_cons_self, rfl⟩
        · exact .inr held

theorem History.exists_name (history : History) {key : String}
    (h : key ∈ history.headers.entries.keys) :
    ∃ name ∈ history.names, canonicalName name = key := by
  induction history with
  | empty => exact nomatch h
  | ofList entries =>
      rcases mem_keys_setAll h with ⟨entry, hentry, spelled⟩ | held
      · exact ⟨entry.1, List.mem_map_of_mem hentry, spelled⟩
      · exact nomatch held
  | ofFields fields =>
      rcases mem_keys_setAll h with ⟨entry, hentry, spelled⟩ | held
      · obtain ⟨field, hfield, rfl⟩ := List.mem_map.mp hentry
        exact ⟨field.1, List.mem_map_of_mem hfield, spelled⟩
      · exact nomatch held
  | changed before change ih =>
      rcases mem_keys_apply h with rfl | held
      · exact ⟨change.name, List.mem_cons_self, rfl⟩
      · obtain ⟨name, hname, spelled⟩ := ih held
        exact ⟨name, List.mem_cons_of_mem _ hname, spelled⟩
  | extended before others ihBefore ihOthers =>
      rcases Dictionary.mem_keys_insertAll h with held | held
      · obtain ⟨name, hname, spelled⟩ := ihOthers held
        exact ⟨name, List.mem_append_left _ hname, spelled⟩
      · obtain ⟨name, hname, spelled⟩ := ihBefore held
        exact ⟨name, List.mem_append_right _ hname, spelled⟩

/-! ## ASCII names -/

namespace History

variable {history : History}

theorem HasAsciiNames.isAscii_of_mem (ascii : history.HasAsciiNames) {name : String}
    (h : name ∈ history.names) : IsAscii name := by
  induction history with
  | empty => exact nomatch h
  | ofList entries =>
      obtain ⟨entry, hentry, rfl⟩ := List.mem_map.mp h
      exact ascii entry hentry
  | ofFields fields => exact (Http.Fields.AreNamed.asciiLower_eq_of_mem ascii h).1
  | changed before change ih =>
      rcases List.mem_cons.mp h with rfl | h
      · exact ascii.2
      · exact ih ascii.1 h
  | extended before others ihBefore ihOthers =>
      rcases List.mem_append.mp h with h | h
      · exact ihOthers ascii.2 h
      · exact ihBefore ascii.1 h

theorem HasAsciiNames.canonicalName_eq_of_mem (ascii : history.HasAsciiNames) {key : String}
    (h : key ∈ history.headers.entries.keys) : IsAscii key ∧ canonicalName key = key := by
  obtain ⟨name, hname, rfl⟩ := history.exists_name h
  have isAscii := ascii.isAscii_of_mem hname
  exact ⟨(areRecased_canonicalName isAscii).isAscii, canonicalName_canonicalName isAscii⟩

theorem HasAsciiNames.mem_toList_iff (ascii : history.HasAsciiNames) {key value : String} :
    (key, value) ∈ history.headers.toList ↔
      IsAscii key ∧ canonicalName key = key ∧ history.headers.get? key = some value := by
  have held := history.headers.entries.get?_eq_some_iff key value
  constructor
  · intro h
    obtain ⟨isAscii, own⟩ := ascii.canonicalName_eq_of_mem (List.mem_map_of_mem h)
    refine ⟨isAscii, own, ?_⟩
    rw [Headers.get?, own]
    exact held.mpr h
  · rintro ⟨-, own, h⟩
    rw [Headers.get?, own] at h
    exact held.mp h

end History

/-! ## The map from names in small letters -/

/-- Look-ups under ASCII names are those of a map from names in small letters. -/
structure Mirrors (headers : Headers) (plain : String → Option String) : Prop where
  get : ∀ name, IsAscii name → headers.get? name = plain (asciiLower name)
  small : ∀ name, plain name ≠ none → IsAscii name ∧ asciiLower name = name

namespace Mirrors

variable {headers : Headers} {plain : String → Option String}

theorem empty : Headers.empty.Mirrors fun _ => none where
  get _ _ := rfl
  small _ h := absurd rfl h

theorem apply (mirrors : headers.Mirrors plain) (change : Change) (ascii : IsAscii change.name) :
    (change.apply headers).Mirrors
      (Function.update plain (asciiLower change.name) change.value?) where
  get wanted isAscii := by
    rw [get?_apply, Function.update_apply, mirrors.get wanted isAscii]
    simp only [canonicalName_eq_iff isAscii ascii]
  small name h := by
    by_cases same : name = asciiLower change.name
    · subst same
      have recased := areRecased_asciiLower ascii
      exact ⟨recased.isAscii, recased.asciiLower_eq⟩
    · rw [Function.update_of_ne same] at h
      exact mirrors.small name h

theorem setAll (mirrors : headers.Mirrors plain) {entries : List (String × String)}
    (ascii : ∀ entry ∈ entries, IsAscii entry.1) :
    (headers.setAll entries).Mirrors (putAll plain entries) := by
  induction entries generalizing headers plain with
  | nil => exact mirrors
  | cons entry rest ih =>
      obtain ⟨first, others⟩ := List.forall_mem_cons.mp ascii
      exact ih (mirrors.apply (.set entry.1 entry.2) first) others

theorem extend {others : Headers} {map : String → Option String} (mirrors : headers.Mirrors plain)
    (further : others.Mirrors map) :
    (headers.extend others).Mirrors fun name => (map name).or (plain name) where
  get name isAscii := by rw [get?_extend, mirrors.get name isAscii, further.get name isAscii]
  small name h := by
    by_cases absent : map name = none
    · rw [absent, Option.none_or] at h
      exact mirrors.small name h
    · exact further.small name absent

end Mirrors

private theorem putAll_apply {entries : List (String × String)}
    (distinct : (entries.map (·.1)).Nodup)
    (small : ∀ entry ∈ entries, asciiLower entry.1 = entry.1) (plain : String → Option String)
    (wanted : String) :
    putAll plain entries wanted = (entries.lookup wanted).or (plain wanted) := by
  induction entries generalizing plain with
  | nil => rfl
  | cons entry rest ih =>
      obtain ⟨first, others⟩ := List.forall_mem_cons.mp small
      rw [List.map_cons, List.nodup_cons] at distinct
      rw [putAll, List.foldl_cons, ← putAll, ih distinct.2 others, first, Function.update_apply,
        Dictionary.lookup_cons_ite]
      split
      · next same =>
        subst same
        rw [Dictionary.lookup_of_not_mem distinct.1]
        rfl
      · rfl

private theorem lookup_map {α : Type} (change : α → String) (entries : List (String × α))
    (wanted : String) :
    (entries.map fun entry => (entry.1, change entry.2)).lookup wanted =
      (entries.lookup wanted).map change := by
  induction entries with
  | nil => rfl
  | cons entry rest ih =>
      rw [List.map_cons, Dictionary.lookup_cons_ite, Dictionary.lookup_cons_ite, ih]
      split <;> rfl

def firstTexts (fields : Http.Fields) : List (String × String) :=
  fields.toList.map fun entry => (entry.1, Utf8.decodeLossy entry.2.first)

private theorem lookup_firstTexts (fields : Http.Fields) (name : String) :
    (firstTexts fields).lookup name = (fields.first? name).map Utf8.decodeLossy := by
  rw [firstTexts, lookup_map fun values : Http.FieldValues => Utf8.decodeLossy values.first,
    Http.Fields.first?, Option.map_map]
  rfl

private theorem nodup_firstTexts (fields : Http.Fields) :
    ((firstTexts fields).map (·.1)).Nodup := by
  rw [firstTexts, List.map_map]
  exact fields.nodup_keys

private theorem spelled_firstTexts {fields : Http.Fields} (named : fields.AreNamed) :
    ∀ entry ∈ firstTexts fields, IsAscii entry.1 ∧ asciiLower entry.1 = entry.1 := by
  intro entry hentry
  obtain ⟨field, hfield, rfl⟩ := List.mem_map.mp hentry
  exact named.asciiLower_eq_of_mem (List.mem_map_of_mem hfield)

theorem mirrors_ofFields {fields : Http.Fields} (named : fields.AreNamed) :
    (ofFields fields).Mirrors fun name => (fields.first? name).map Utf8.decodeLossy := by
  have spelled := spelled_firstTexts named
  have same : putAll (fun _ => none) (firstTexts fields) =
      fun name => (fields.first? name).map Utf8.decodeLossy := by
    funext name
    rw [putAll_apply (nodup_firstTexts fields) fun entry h => (spelled entry h).2,
      Option.or_none, lookup_firstTexts]
  rw [← same]
  exact Mirrors.empty.setAll fun entry h => (spelled entry h).1

theorem History.headers_mirrors_plain {history : History} (ascii : history.HasAsciiNames) :
    history.headers.Mirrors history.plain := by
  induction history with
  | empty => exact .empty
  | ofList entries => exact Mirrors.empty.setAll ascii
  | ofFields fields => exact mirrors_ofFields ascii
  | changed before change ih => exact (ih ascii.1).apply change ascii.2
  | extended before others ihBefore ihOthers => exact (ihBefore ascii.1).extend (ihOthers ascii.2)

namespace History

variable {history : History} {key value : String}

theorem HasAsciiNames.mem_toList_iff_plain (ascii : history.HasAsciiNames) :
    (key, value) ∈ history.headers.toList ↔
      ∃ name, history.plain name = some value ∧ canonicalName name = key := by
  have mirrors := History.headers_mirrors_plain ascii
  rw [ascii.mem_toList_iff]
  constructor
  · rintro ⟨isAscii, own, held⟩
    refine ⟨asciiLower key, ?_, ?_⟩
    · rw [← mirrors.get key isAscii, held]
    · rw [canonicalName_asciiLower isAscii, own]
  · rintro ⟨name, held, rfl⟩
    obtain ⟨isAscii, small⟩ := mirrors.small name (by simp [held])
    have spelled := areRecased_canonicalName isAscii
    refine ⟨spelled.isAscii, canonicalName_canonicalName isAscii, ?_⟩
    rw [mirrors.get _ spelled.isAscii, spelled.asciiLower_eq, small, held]

theorem HasAsciiNames.nodup_names (ascii : history.HasAsciiNames) :
    (history.headers.toList.map fun entry => asciiLower entry.1).Nodup := by
  refine history.headers.entries.nodup_toList.map_on ?_
  intro first hfirst second hsecond same
  apply Dictionary.eq_of_key_eq hfirst hsecond
  obtain ⟨isAscii, own⟩ := ascii.canonicalName_eq_of_mem (List.mem_map_of_mem hfirst)
  obtain ⟨other, own'⟩ := ascii.canonicalName_eq_of_mem (List.mem_map_of_mem hsecond)
  rw [← own, ← own', canonicalName_eq_iff isAscii other]
  exact same

end History

end Headers

end ObjectStorage
