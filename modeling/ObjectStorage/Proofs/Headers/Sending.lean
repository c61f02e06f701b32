import ObjectStorage.Proofs.Headers.Names
import ObjectStorage.Proofs.Text.Escaped

/-!
# Headers that can be sent

The first entry that is refused decides that headers are not sent, so that setting another header
to a text that can be sent does not matter for it.  Under a settled name the field that is sent is
what the headers hold, and there is none if they hold nothing.
-/

namespace ObjectStorage

namespace Http

theorem fieldValue?_of_printed {text : String}
    (h : ∀ c ∈ text.toList, c.toNat = 9 ∨ 0x20 ≤ c.toNat ∧ c.toNat ≠ 0x7F) :
    fieldValue? text = some (Utf8.ofText text) := by
  unfold fieldValue?
  dsimp only
  rw [if_pos]
  simp only [List.all_eq_true]
  intro byte hbyte
  by_cases ascii : byte.toNat < 128
  · have printed := h _ (Percent.mem_of_mem_utf8 hbyte ascii)
    rcases Text.toNat_ofNat byte.toNat with same | zero
    · rw [same] at printed
      simpa [isValueByte, UInt8.le_iff_toNat_le, ← UInt8.toNat_inj] using printed
    · rw [zero] at printed
      exact absurd printed (by decide)
  · simp [isValueByte, UInt8.le_iff_toNat_le, ← UInt8.toNat_inj]
    omega

theorem fieldValue?_of_visible {value : Bytes} {text : String}
    (h : visibleText? value = some text) : fieldValue? text ≠ none := by
  unfold visibleText? at h
  split at h
  · next visible =>
      cases h
      rw [fieldValue?_of_printed]
      · exact Option.some_ne_none _
      · intro c hc
        rw [String.toList_ofList] at hc
        obtain ⟨byte, hbyte, rfl⟩ := List.mem_map.mp hc
        have := List.all_eq_true.mp visible byte hbyte
        have small := byte.toNat_lt
        simp only [isVisible, UInt8.le_iff_toNat_le, UInt8.lt_iff_toNat_lt, ← UInt8.toNat_inj,
          Bool.or_eq_true, Bool.and_eq_true, decide_eq_true_eq] at this
        rw [Utf8.toNat_ofNat_of_lt (by omega)]
        exact this.imp_right fun bounds => ⟨bounds.1, Nat.ne_of_lt bounds.2⟩
  · exact nomatch h

end Http

namespace Headers

variable {headers : Headers} {fields sent : Http.Fields} {wire value : String} {error : Error}

/-! ## Refused entries -/

/-- Why an entry cannot be sent, if it cannot. -/
def refusal? (entry : String × String) : Option Error :=
  match Http.fieldName? entry.1, Http.fieldValue? entry.2 with
  | none, _ => some (.badHeader entry.1 .invalidName)
  | some _, none => some (.badHeader entry.1 .invalidValue)
  | some _, some _ => none

private theorem addField_eq (fields : Http.Fields) (entry : String × String) :
    (∃ error, refusal? entry = some error ∧ addField fields entry = .error error) ∨
      refusal? entry = none ∧ ∃ next, addField fields entry = .ok next := by
  unfold refusal? addField
  cases Http.fieldName? entry.1 with
  | none => exact .inl ⟨_, rfl, rfl⟩
  | some name =>
      cases Http.fieldValue? entry.2 with
      | none => exact .inl ⟨_, rfl, rfl⟩
      | some value => exact .inr ⟨rfl, _, rfl⟩

theorem foldlM_addField_error_iff (entries : List (String × String)) (fields : Http.Fields) :
    entries.foldlM addField fields = .error error ↔ entries.findSome? refusal? = some error := by
  induction entries generalizing fields with
  | nil =>
      refine iff_of_false ?_ nofun
      rintro ⟨⟩
  | cons entry rest ih =>
      rw [List.foldlM_cons, List.findSome?_cons]
      rcases addField_eq fields entry with ⟨refused, hrefused, hadd⟩ | ⟨hkept, next, hadd⟩
      · rw [hrefused, hadd]
        exact ⟨fun h => congrArg some (Except.error.inj h),
          fun h => congrArg Except.error (Option.some.inj h)⟩
      · rw [hkept, hadd]
        exact ih next

theorem toFields_error_iff (headers : Headers) :
    headers.toFields = .error error ↔ headers.toList.findSome? refusal? = some error :=
  foldlM_addField_error_iff headers.toList .none

private theorem findSome?_insertEntry {key value : String} (entries : List (String × String))
    (sendable : refusal? (key, value) = none)
    (replaced : ∀ held, (key, held) ∈ entries → refusal? (key, held) = none) :
    (Dictionary.insertEntry key value entries).findSome? refusal? =
      entries.findSome? refusal? := by
  induction entries with
  | nil => simp [Dictionary.insertEntry, sendable]
  | cons first rest ih =>
      obtain ⟨other, held⟩ := first
      have others := ih fun held hmem => replaced held (List.mem_cons_of_mem _ hmem)
      simp only [Dictionary.insertEntry]
      split
      · simp [List.findSome?_cons, sendable]
      split
      · next heq =>
        subst heq
        simp [sendable, replaced held List.mem_cons_self]
      · simp only [List.findSome?_cons, others]

/-- A header that can be sent neither hides nor causes a refusal. -/
theorem toFields_set_error_iff {name : String}
    (sendable : refusal? (canonicalName name, value) = none)
    (replaced : ∀ held, headers.get? name = some held →
      refusal? (canonicalName name, held) = none) :
    (headers.set name value).toFields = .error error ↔ headers.toFields = .error error := by
  rw [toFields_error_iff, toFields_error_iff]
  have same := findSome?_insertEntry headers.toList sendable fun held hmem =>
    replaced held ((headers.entries.get?_eq_some_iff _ _).mpr hmem)
  exact iff_of_eq (congrArg (· = some error) same)

theorem exists_fields_iff (headers : Headers) :
    (∃ fields, headers.toFields = .ok fields) ↔
      ∀ entry ∈ headers.toList, refusal? entry = none := by
  rw [← List.findSome?_eq_none_iff]
  cases held : headers.toFields with
  | ok fields =>
      refine iff_of_true ⟨fields, rfl⟩ ?_
      cases refused : headers.toList.findSome? refusal? with
      | none => rfl
      | some error => exact nomatch held.symm.trans ((toFields_error_iff headers).mpr refused)
  | error error =>
      refine iff_of_false (fun ⟨fields, h⟩ => nomatch h) fun clean => ?_
      exact nomatch clean.symm.trans ((toFields_error_iff headers).mp held)

theorem exists_fields_set {name : String} (h : ∃ fields, headers.toFields = .ok fields)
    (sendable : refusal? (canonicalName name, value) = none) :
    ∃ fields, (headers.set name value).toFields = .ok fields := by
  rw [exists_fields_iff] at h ⊢
  intro entry hentry
  rcases Dictionary.mem_insertEntry hentry with rfl | hentry
  · exact sendable
  · exact h entry hentry

/-! ## What is sent under a name -/

private theorem get?_foldlM_of_absent {entries : List (String × String)}
    (h : entries.foldlM addField fields = .ok sent)
    (absent : ∀ entry ∈ entries, Http.fieldName? entry.1 ≠ some wire) :
    sent.get? wire = fields.get? wire := by
  induction entries generalizing fields with
  | nil =>
      cases h
      rfl
  | cons first rest ih =>
      rw [List.foldlM_cons] at h
      obtain ⟨next, hfirst, hrest⟩ := ok_of_bind h
      obtain ⟨name, bytes, named, -, rfl⟩ := addField_ok hfirst
      rw [ih hrest fun entry hentry => absent entry (List.mem_cons_of_mem _ hentry),
        Http.Fields.replace, Dictionary.get?_insert, if_neg]
      rintro rfl
      exact absent first List.mem_cons_self named

theorem get?_toFields_of_absent (settled : isSettled true wire.toList = true)
    (absent : headers.get? wire = none) (h : headers.toFields = .ok sent) :
    sent.get? wire = none := by
  refine get?_foldlM_of_absent h ?_
  rintro ⟨key, held⟩ hentry hname
  obtain rfl := canonicalName_of_fieldName? (headers.spelled key (List.mem_map_of_mem hentry))
    settled hname
  have found : headers.get? wire = some held :=
    (headers.entries.get?_eq_some_iff _ _).mpr hentry
  exact nomatch absent.symm.trans found

end Headers

end ObjectStorage
