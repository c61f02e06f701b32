import ObjectStorage.Proofs.Headers.History
import ObjectStorage.Proofs.Headers.Sending

/-!
# Headers on their way over the wire

Names are sent in small letters and come back in their canonical spelling.  Of names of ASCII
characters this loses and merges none, so that headers and fields are turned into each other and
back without a change.
-/

namespace ObjectStorage

namespace Http

/-- A text of tabs and of what is no control character. -/
def IsFieldValue (text : String) : Prop :=
  ∀ byte ∈ Utf8.ofText text, byte = 9 ∨ 0x20 ≤ byte ∧ byte ≠ 0x7F

theorem fieldValue?_eq_some_iff {text : String} {bytes : Bytes} :
    fieldValue? text = some bytes ↔ IsFieldValue text ∧ Utf8.ofText text = bytes := by
  have same : (Utf8.ofText text).all isValueByte = true ↔ IsFieldValue text := by
    simp [IsFieldValue, isValueByte]
  simp only [fieldValue?]
  split
  · next valued => simp [same.mp valued]
  · next other =>
    simp only [reduceCtorEq, false_iff, not_and]
    exact fun valued => absurd (same.mpr valued) other

end Http

namespace Headers

open Text

def CanBeSent (entry : String × String) : Prop :=
  Http.IsFieldName entry.1 ∧ Http.IsFieldValue entry.2

def wire (entry : String × String) : String × Http.FieldValues :=
  (asciiLower entry.1, ⟨Utf8.ofText entry.2, []⟩)

/-! ## What is sent -/

variable {headers : Headers} {fields sent : Http.Fields} {entry : String × String} {error : Error}

theorem addField_ok_iff : addField fields entry = .ok sent ↔
    CanBeSent entry ∧ sent = fields.insert (wire entry).1 (wire entry).2 := by
  constructor
  · intro h
    unfold addField at h
    split at h
    · exact nomatch h
    next name named =>
    split at h
    · exact nomatch h
    next value valued =>
    cases h
    obtain ⟨isName, rfl⟩ := Http.fieldName?_eq_some_iff.mp named
    obtain ⟨isValue, rfl⟩ := Http.fieldValue?_eq_some_iff.mp valued
    exact ⟨⟨isName, isValue⟩, rfl⟩
  · rintro ⟨⟨isName, isValue⟩, rfl⟩
    simp only [addField, Http.fieldName?_eq_some_iff.mpr ⟨isName, rfl⟩,
      Http.fieldValue?_eq_some_iff.mpr ⟨isValue, rfl⟩]
    rfl

theorem foldlM_addField_ok_iff (entries : List (String × String)) (fields : Http.Fields) :
    entries.foldlM addField fields = .ok sent ↔
      (∀ entry ∈ entries, CanBeSent entry) ∧ sent = fields.insertAll (entries.map wire) := by
  induction entries generalizing fields with
  | nil =>
      constructor
      · rintro ⟨⟩
        exact ⟨nofun, rfl⟩
      · rintro ⟨-, rfl⟩
        rfl
  | cons entry rest ih =>
      rw [List.foldlM_cons, List.forall_mem_cons]
      constructor
      · intro h
        obtain ⟨next, hfirst, hrest⟩ := ok_of_bind h
        obtain ⟨here, rfl⟩ := addField_ok_iff.mp hfirst
        obtain ⟨further, rfl⟩ := (ih _).mp hrest
        exact ⟨⟨here, further⟩, rfl⟩
      · rintro ⟨⟨here, further⟩, rfl⟩
        rw [addField_ok_iff.mpr ⟨here, rfl⟩]
        exact (ih _).mpr ⟨further, rfl⟩

theorem toFields_ok_iff : headers.toFields = .ok sent ↔
    (∀ entry ∈ headers.toList, CanBeSent entry) ∧
      sent = Dictionary.ofList (headers.toList.map wire) :=
  foldlM_addField_ok_iff headers.toList .none

/-! ## What is refused -/

/-- The error names the entry, and says what is wrong with it. -/
def IsRefusalOf (error : Error) (entry : String × String) : Prop :=
  ¬Http.IsFieldName entry.1 ∧ error = .badHeader entry.1 .invalidName ∨
    Http.IsFieldName entry.1 ∧ ¬Http.IsFieldValue entry.2 ∧ error = .badHeader entry.1 .invalidValue

private theorem refusal?_cases (entry : String × String) :
    refusal? entry = none ∧ CanBeSent entry ∨
      ∃ error, refusal? entry = some error ∧ IsRefusalOf error entry := by
  unfold refusal?
  cases named : Http.fieldName? entry.1 with
  | none =>
      refine .inr ⟨_, rfl, .inl ⟨fun isName => ?_, rfl⟩⟩
      exact nomatch named.symm.trans (Http.fieldName?_eq_some_iff.mpr ⟨isName, rfl⟩)
  | some name =>
      have isName := (Http.fieldName?_eq_some_iff.mp named).1
      cases valued : Http.fieldValue? entry.2 with
      | none =>
          refine .inr ⟨_, rfl, .inr ⟨isName, fun isValue => ?_, rfl⟩⟩
          exact nomatch valued.symm.trans (Http.fieldValue?_eq_some_iff.mpr ⟨isValue, rfl⟩)
      | some value => exact .inl ⟨rfl, isName, (Http.fieldValue?_eq_some_iff.mp valued).1⟩

private theorem first_refused (h : headers.toFields = .error error) :
    ∃ before entry after, headers.toList = before ++ entry :: after ∧
      (∀ earlier ∈ before, CanBeSent earlier) ∧ IsRefusalOf error entry := by
  rw [toFields_error_iff, List.findSome?_eq_some_iff] at h
  obtain ⟨before, entry, after, listed, refused, kept⟩ := h
  refine ⟨before, entry, after, listed, ?_, ?_⟩
  · intro earlier hearlier
    rcases refusal?_cases earlier with ⟨-, sendable⟩ | ⟨other, hother, -⟩
    · exact sendable
    · exact nomatch (kept earlier hearlier).symm.trans hother
  · rcases refusal?_cases entry with ⟨hkept, -⟩ | ⟨other, hother, reason⟩
    · exact nomatch refused.symm.trans hkept
    · obtain rfl := Option.some.inj (refused.symm.trans hother)
      exact reason

/-! ## There and back -/

private theorem ext_mem {first second : Headers}
    (h : ∀ entry, entry ∈ first.toList ↔ entry ∈ second.toList) : first = second := by
  have same : first.entries = second.entries := Dictionary.ext_mem h
  cases first
  cases second
  cases same
  rfl

theorem mem_toList_ofFields (named : fields.AreNamed) {key value : String} :
    (key, value) ∈ (ofFields fields).toList ↔ ∃ field ∈ fields.toList,
      canonicalName field.1 = key ∧ Utf8.decodeLossy field.2.first = value := by
  have ascii : (History.ofFields fields).HasAsciiNames := named
  have plain (name : String) : (fields.first? name).map Utf8.decodeLossy = some value ↔
      ∃ values, (name, values) ∈ fields.toList ∧ Utf8.decodeLossy values.first = value := by
    simp [Http.Fields.first?, ← Dictionary.get?_eq_some_iff]
  refine ascii.mem_toList_iff_plain.trans ?_
  constructor
  · rintro ⟨name, held, rfl⟩
    obtain ⟨values, hfield, rfl⟩ := (plain name).mp held
    exact ⟨(name, values), hfield, rfl, rfl⟩
  · rintro ⟨⟨name, values⟩, hfield, rfl, rfl⟩
    exact ⟨name, (plain name).mpr ⟨values, hfield, rfl⟩, rfl⟩

section Sent

variable {history : History}

theorem nodup_wire (ascii : history.HasAsciiNames) :
    ((history.headers.toList.map wire).map (·.1)).Nodup := by
  rw [List.map_map]
  exact ascii.nodup_names

theorem mem_wire (ascii : history.HasAsciiNames) {field : String × Http.FieldValues} :
    field ∈ (Dictionary.ofList (history.headers.toList.map wire)).toList ↔
      ∃ entry ∈ history.headers.toList, wire entry = field := by
  rw [Dictionary.mem_toList_ofList (nodup_wire ascii), List.mem_map]

theorem toList_sent_perm (ascii : history.HasAsciiNames)
    (h : history.headers.toFields = .ok fields) :
    fields.toList.Perm (history.headers.toList.map wire) := by
  obtain ⟨-, rfl⟩ := toFields_ok_iff.mp h
  exact Dictionary.toList_ofList_perm (nodup_wire ascii)

private theorem areNamed_sent (ascii : history.HasAsciiNames)
    (h : history.headers.toFields = .ok fields) : fields.AreNamed := by
  obtain ⟨sendable, rfl⟩ := toFields_ok_iff.mp h
  intro name hname
  obtain ⟨field, hfield, rfl⟩ := List.mem_map.mp hname
  obtain ⟨entry, hentry, rfl⟩ := (mem_wire ascii).mp hfield
  have isName := (sendable entry hentry).1
  have recased := areRecased_asciiLower isName.isAscii
  exact Http.fieldName?_eq_some_iff.mpr ⟨isName.of_areRecased recased, recased.asciiLower_eq⟩

theorem ofFields_sent (ascii : history.HasAsciiNames)
    (h : history.headers.toFields = .ok fields) : ofFields fields = history.headers := by
  -- The spelling of the name on the wire is the name that is held.
  have back : ∀ entry ∈ history.headers.toList, canonicalName (wire entry).1 = entry.1 := by
    intro entry hentry
    obtain ⟨isAscii, own⟩ := ascii.canonicalName_eq_of_mem (List.mem_map_of_mem hentry)
    exact (canonicalName_asciiLower isAscii).trans own
  have named := areNamed_sent ascii h
  obtain ⟨-, rfl⟩ := toFields_ok_iff.mp h
  apply ext_mem
  rintro ⟨key, value⟩
  rw [mem_toList_ofFields named]
  constructor
  · rintro ⟨field, hfield, rfl, rfl⟩
    obtain ⟨entry, hentry, rfl⟩ := (mem_wire ascii).mp hfield
    rw [back entry hentry, wire, Utf8.decodeLossy_ofText]
    exact hentry
  · intro hentry
    refine ⟨_, (mem_wire ascii).mpr ⟨_, hentry, rfl⟩, back _ hentry, ?_⟩
    exact Utf8.decodeLossy_ofText value

end Sent

/-- Every field has one value, which is a text. -/
def HoldTexts (fields : Http.Fields) : Prop :=
  ∀ field ∈ fields.toList, ∃ text, Http.IsFieldValue text ∧ field.2 = ⟨Utf8.ofText text, []⟩

theorem toFields_ofFields (named : fields.AreNamed) (texts : HoldTexts fields) :
    (ofFields fields).toFields = .ok fields := by
  have ascii : (History.ofFields fields).HasAsciiNames := named
  have back : ∀ field ∈ fields.toList,
      CanBeSent (canonicalName field.1, Utf8.decodeLossy field.2.first) ∧
        wire (canonicalName field.1, Utf8.decodeLossy field.2.first) = field := by
    rintro ⟨name, values⟩ hfield
    obtain ⟨isName, small⟩ :=
      Http.fieldName?_eq_some_iff.mp (named name (List.mem_map_of_mem hfield))
    obtain ⟨text, isValue, rfl⟩ := texts _ hfield
    have recased := areRecased_canonicalName isName.isAscii
    rw [wire, Utf8.decodeLossy_ofText, recased.asciiLower_eq, small]
    exact ⟨⟨isName.of_areRecased recased, isValue⟩, rfl⟩
  rw [toFields_ok_iff]
  constructor
  · rintro ⟨key, value⟩ hentry
    obtain ⟨field, hfield, rfl, rfl⟩ := (mem_toList_ofFields named).mp hentry
    exact (back field hfield).1
  · apply Dictionary.ext_mem
    intro field
    refine Iff.trans ?_ (mem_wire ascii).symm
    constructor
    · intro hfield
      exact ⟨_, (mem_toList_ofFields named).mpr ⟨field, hfield, rfl, rfl⟩, (back field hfield).2⟩
    · rintro ⟨⟨key, value⟩, hentry, rfl⟩
      obtain ⟨field, hfield, rfl, rfl⟩ := (mem_toList_ofFields named).mp hentry
      rw [(back field hfield).2]
      exact hfield

structure SurvivesWire (headers : Headers) : Prop where
  sent_iff : (∃ fields, headers.toFields = .ok fields) ↔
    ∀ entry ∈ headers.toList, Http.IsFieldName entry.1 ∧ Http.IsFieldValue entry.2
  kept : ∀ fields, headers.toFields = .ok fields →
    fields.toList.Perm (headers.toList.map wire) ∧ ofFields fields = headers
  refused : ∀ error, headers.toFields = .error error → ∃ before entry after,
    headers.toList = before ++ entry :: after ∧ (∀ earlier ∈ before, CanBeSent earlier) ∧
      IsRefusalOf error entry

/-- Headers of ASCII names come back from the wire as they were, and fields of one text each are
sent as they came. -/
theorem survives_wire :
    (∀ history : History, history.HasAsciiNames → history.headers.SurvivesWire) ∧
      ∀ fields : Http.Fields, fields.AreNamed → HoldTexts fields →
        (ofFields fields).toFields = .ok fields := by
  refine ⟨fun history ascii => ⟨?_, ?_, ?_⟩, fun fields => toFields_ofFields⟩
  · simp only [toFields_ok_iff, exists_and_left, exists_eq, and_true]
    rfl
  · exact fun fields h => ⟨toList_sent_perm ascii h, ofFields_sent ascii h⟩
  · exact fun error => first_refused

theorem survives_wire_of_two :
    (History.headers (.ofList [("x--9y", "A"), ("ETAG", "")])).SurvivesWire ∧
      (ofFields (.ofList [("etag", ⟨[], []⟩), ("x--9y", ⟨[65], []⟩)])).toFields =
        .ok (.ofList [("etag", ⟨[], []⟩), ("x--9y", ⟨[65], []⟩)]) := by
  refine ⟨survives_wire.1 _ (by decide), survives_wire.2 _ ?named ?texts⟩
  case named =>
    unfold Http.Fields.AreNamed
    decide
  case texts =>
    intro field hfield
    rw [Dictionary.mem_toList_ofList (by decide)] at hfield
    simp only [List.mem_cons, List.not_mem_nil, or_false] at hfield
    rcases hfield with rfl | rfl
    · exact ⟨"", nofun, rfl⟩
    · exact ⟨"A", List.forall_mem_singleton.mpr (by decide), by decide⟩

end Headers

end ObjectStorage
