import ObjectStorage.Headers.Fields
import ObjectStorage.Proofs.Headers.OwnNames

/-!
# Typed fields

Headers are valid exactly if all numbers and times of their kind can be read, and otherwise the
error is that of the first that cannot.  What is set in a field is read back, times without their
fraction, and the other fields of the kind read as before.
-/

namespace ObjectStorage

namespace Integer

variable {limit : Nat}

private theorem readNonempty_toDigits (beyond : Fault) {n : Nat} (h : n ≤ limit) :
    readNonempty limit beyond (Nat.toDigits 10 n) = .ok n := by
  cases digits : Nat.toDigits 10 n with
  | nil => exact absurd digits Nat.toDigits_ne_nil
  | cons c rest =>
      rw [readNonempty, ← digits, readDigits_toDigits beyond h]
      exact nofun

private theorem readSigned_of_digits {digits : List Char} (h : ∀ c ∈ digits, 48 ≤ c.toNat) :
    readSigned limit digits = (readNonempty limit .tooLarge digits).map Int.ofNat := by
  unfold readSigned
  split
  · exact absurd (h '+' List.mem_cons_self) (by decide)
  · exact absurd (h '-' List.mem_cons_self) (by decide)
  · rfl

private theorem readSigned_writeInt {n : Int} (low : -(limit + 1) ≤ n) (high : n ≤ limit) :
    readSigned limit (writeInt n).toList = .ok n := by
  cases n with
  | ofNat n =>
      have bound : n ≤ limit := Int.ofNat_le.mp high
      rw [writeInt, writeNat, String.toList_ofList,
        readSigned_of_digits fun c hc => (isDigit_of_mem_toDigits hc).1,
        readNonempty_toDigits _ bound]
      rfl
  | negSucc n =>
      rw [writeInt, String.toList_ofList, readSigned, readNonempty_toDigits _ (by omega)]
      rfl

theorem readSignedWord_writeInt {n : Int} (low : -9223372036854775808 ≤ n)
    (high : n ≤ 9223372036854775807) : readSignedWord (writeInt n) = .ok n :=
  readSigned_writeInt (by rw [maxSignedWord]; omega) (by rw [maxSignedWord]; omega)

theorem writeNat_ne_empty (n : Nat) : writeNat n ≠ "" := by
  intro empty
  have digits := congrArg String.toList empty
  rw [writeNat, String.toList_ofList] at digits
  exact Nat.toDigits_ne_nil digits

private theorem writeInt_ne_empty (n : Int) : writeInt n ≠ "" := by
  cases n with
  | ofNat n => exact writeNat_ne_empty n
  | negSucc n =>
      intro empty
      have digits := congrArg String.toList empty
      rw [writeInt, String.toList_ofList] at digits
      exact nomatch digits

end Integer

namespace Timestamp

variable (timestamp : Timestamp)

theorem seconds_bounds : -377705023201 ≤ timestamp.seconds ∧ timestamp.seconds ≤ 253402207200 := by
  obtain ⟨low, high⟩ := timestamp.inRange
  rw [seconds, Int.tdiv_eq_ediv, Int.sign_eq_one_of_pos (by decide)]
  split <;> omega

/-- The start of the second that the time is in, that is, the one nearer to 1970. -/
def wholeSeconds : Timestamp where
  nanoseconds := timestamp.seconds * 1000000000
  inRange := by
    obtain ⟨low, high⟩ := timestamp.seconds_bounds
    omega

theorem readUnix_writeUnix : readUnix (writeUnix timestamp) = .ok timestamp.wholeSeconds := by
  obtain ⟨low, high⟩ := timestamp.seconds_bounds
  have read := Integer.readSignedWord_writeInt (n := timestamp.seconds) (by omega) (by omega)
  have second : ofSeconds? timestamp.seconds = some timestamp.wholeSeconds :=
    dif_pos timestamp.wholeSeconds.inRange
  unfold readUnix writeUnix
  -- With a variable in its place, to reduce the matches is not to multiply out the range of times.
  obtain ⟨timeOf, same⟩ : ∃ timeOf, timeOf = ofSeconds? := ⟨_, rfl⟩
  rw [← same] at second ⊢
  rw [read]
  dsimp only
  rw [second]

end Timestamp

/-! ## Fields of any type -/

namespace AnyField

def Value : AnyField → Type
  | .text _ => String
  | .count _ | .settableCount _ => UInt64
  | .time _ | .settableTime _ => Timestamp

def field : (any : AnyField) → Field any.Value
  | .text field => field.toField
  | .count field => field
  | .settableCount field => field.toField
  | .time field => field
  | .settableTime field => field.toField

def settable? : (any : AnyField) → Option (SettableField any.Value)
  | .text field => some field
  | .settableCount field => some field
  | .settableTime field => some field
  | .count _ | .time _ => none

/-- Numbers and times, as opposed to texts. -/
def IsParsed : AnyField → Prop
  | .text _ => False
  | _ => True

instance : DecidablePred AnyField.IsParsed
  | .text _ => .isFalse id
  | .count _ | .settableCount _ | .time _ | .settableTime _ => .isTrue trivial

private theorem field_of_settable? {any : AnyField} {field : SettableField any.Value}
    (h : any.settable? = some field) : field.toField = any.field := by
  cases any with
  | count | time => exact nomatch h
  | text | settableCount | settableTime =>
      cases h
      rfl

theorem validate_eq (any : AnyField) (headers : Headers) :
    any.validate headers = any.field.validate headers := by
  cases any <;> rfl

end AnyField

/-! ## Validity -/

theorem forM_eq_ok_iff {ε α : Type} {check : α → Except ε Unit} {items : List α} :
    items.forM check = .ok () ↔ ∀ item ∈ items, check item = .ok () := by
  induction items with
  | nil => simp [List.forM, pure, Except.pure]
  | cons item rest ih =>
      rw [List.forall_mem_cons, ← ih]
      change (check item >>= fun _ => rest.forM check) = _ ↔ _
      cases check item with
      | error fault => exact iff_of_false nofun nofun
      | ok done => exact (and_iff_right rfl).symm

theorem forM_eq_error_iff {ε α : Type} {check : α → Except ε Unit} {items : List α} {fault : ε} :
    items.forM check = .error fault ↔ ∃ before item after, items = before ++ item :: after ∧
      (∀ earlier ∈ before, check earlier = .ok ()) ∧ check item = .error fault := by
  induction items with
  | nil =>
      refine iff_of_false nofun ?_
      rintro ⟨before, item, after, split, -⟩
      exact absurd split.symm (by simp)
  | cons first rest ih =>
      change (check first >>= fun _ => rest.forM check) = _ ↔ _
      constructor
      · intro h
        rcases error_of_bind h with failed | ⟨done, passed, further⟩
        · exact ⟨[], first, rest, rfl, nofun, failed⟩
        · obtain ⟨before, item, after, rfl, pass, failed⟩ := ih.mp further
          exact ⟨first :: before, item, after, rfl, List.forall_mem_cons.mpr ⟨passed, pass⟩, failed⟩
      · rintro ⟨before, item, after, split, pass, failed⟩
        cases before with
        | nil =>
            obtain ⟨rfl, rfl⟩ := List.cons.inj split
            rw [failed]
            rfl
        | cons other before =>
            obtain ⟨rfl, rfl⟩ := List.cons.inj split
            obtain ⟨passed, pass⟩ := List.forall_mem_cons.mp pass
            rw [passed]
            exact ih.mpr ⟨before, item, after, rfl, pass, failed⟩

private theorem forM_filter {ε α : Type} {check : α → Except ε Unit} {picked : α → Bool}
    {items : List α} (passes : ∀ item ∈ items, picked item = false → check item = .ok ()) :
    (items.filter picked).forM check = items.forM check := by
  induction items with
  | nil => rfl
  | cons item rest ih =>
      obtain ⟨pass, further⟩ := List.forall_mem_cons.mp passes
      change _ = (check item >>= fun _ => rest.forM check)
      rw [← ih further]
      cases h : picked item with
      | true =>
          rw [List.filter_cons_of_pos h]
          rfl
      | false =>
          rw [List.filter_cons_of_neg (by rw [h]; decide), pass h]
          rfl

namespace Field

variable {α : Type} {field : Field α} {headers : Headers}

theorem validate_ok_iff :
    field.validate headers = .ok () ↔ ∃ reading, field.get headers = .ok reading := by
  unfold validate
  cases field.get headers <;> simp [Except.map]

theorem validate_error_iff {error : Error} :
    field.validate headers = .error error ↔ field.get headers = .error error := by
  unfold validate
  cases field.get headers <;> simp [Except.map]

private theorem badHeader_of_get {error : Error} (h : field.get headers = .error error) :
    ∃ fault, error = .badHeader field.name fault := by
  unfold get at h
  split at h
  · exact nomatch h
  · exact nomatch h
  · split at h
    · exact nomatch h
    · next fault _ =>
      cases h
      exact ⟨fault, rfl⟩

end Field

/-- Fields as the kinds have them. -/
inductive AnyField.IsBuilt : AnyField → Prop
  | text (name : String) : IsBuilt (.text (.text name))
  | count (name : String) : IsBuilt (.count (.count name))
  | settableCount (name : String) : IsBuilt (.settableCount (.count name))
  | fractionalTime (name : String) : IsBuilt (.time (.fractionalTime name))
  | httpDate (name : String) : IsBuilt (.time (.httpDate name))
  | unixTime (name : String) : IsBuilt (.settableTime (.unixTime name))

namespace Kind

theorem isBuilt_of_mem {kind : Kind} {entry : String × AnyField} (h : entry ∈ kind.fields) :
    entry.2.IsBuilt := by
  revert entry
  cases kind with
  | account =>
      simp only [fields, List.forall_mem_cons]
      exact ⟨.count _, .count _, .count _, .settableCount _, .text _, .text _, .fractionalTime _,
        nofun⟩
  | container =>
      simp only [fields, List.forall_mem_cons]
      exact ⟨.count _, .count _, .settableCount _, .settableCount _, .text _, .text _, .text _,
        .text _, .text _, .text _, .text _, .text _, .text _, .fractionalTime _, nofun⟩
  | object =>
      simp only [fields, List.forall_mem_cons]
      exact ⟨.text _, .text _, .text _, .text _, .settableCount _, .unixTime _, .httpDate _,
        .fractionalTime _, nofun⟩

theorem nodup_names (kind : Kind) :
    (kind.fields.map fun entry => Headers.canonicalName entry.2.field.name).Nodup := by
  cases kind <;> decide +kernel

private theorem name_ne_of_ne {kind : Kind} {entry other : String × AnyField}
    (h : entry ∈ kind.fields) (further : other ∈ kind.fields) (ne : other.1 ≠ entry.1) :
    Headers.canonicalName other.2.field.name ≠ Headers.canonicalName entry.2.field.name := by
  intro same
  have equal := List.inj_on_of_nodup_map kind.nodup_names further h same
  exact ne (congrArg Prod.fst equal)

end Kind

theorem AnyField.IsBuilt.get_of_not_isParsed {any : AnyField} (built : any.IsBuilt)
    (h : ¬any.IsParsed) (headers : Headers) : ∃ reading, any.field.get headers = .ok reading := by
  cases built with
  | text name =>
      simp only [field, Field.get]
      split
      · exact ⟨_, rfl⟩
      · exact ⟨_, rfl⟩
      · exact ⟨_, rfl⟩
  | count | settableCount | fractionalTime | httpDate | unixTime => exact absurd trivial h

theorem Kind.checked_eq_filter (kind : Kind) :
    kind.checked = (kind.fields.map Prod.snd).filter (decide <| AnyField.IsParsed ·) := by
  cases kind <;> rfl

theorem Kind.mem_checked_iff {kind : Kind} {any : AnyField} :
    any ∈ kind.checked ↔ any.IsParsed ∧ ∃ name, (name, any) ∈ kind.fields := by
  rw [checked_eq_filter, List.mem_filter, decide_eq_true_eq, and_comm]
  simp

/-- To check the numbers and times of the kind is to check all fields of the kind. -/
theorem Headers.validate_eq_fields (kind : Kind) (headers : Headers) :
    headers.validate kind = kind.fields.forM fun entry => entry.2.validate headers := by
  rw [validate, Kind.checked_eq_filter, forM_filter]
  · exact List.forM_map (m := Except Error) (l := kind.fields) (g := Prod.snd)
      (f := AnyField.validate headers)
  · intro any h texts
    obtain ⟨entry, hentry, rfl⟩ := List.mem_map.mp h
    rw [AnyField.validate_eq, Field.validate_ok_iff]
    exact (Kind.isBuilt_of_mem hentry).get_of_not_isParsed (of_decide_eq_false texts) headers

/-! ## Changes through fields -/

namespace Headers

theorem text_set_self (headers : Headers) (name value : String) :
    (headers.set name value).text name = if value = "" then .empty else .value value :=
  text_of_get? (by rw [get?_set, if_pos rfl])

private theorem text_erase_self (headers : Headers) (name : String) :
    (headers.erase name).text name = .absent := by
  rw [text, get?_erase, if_pos rfl]

private theorem text_apply_of_ne {headers : Headers} {change : Change} {name : String}
    (h : canonicalName name ≠ canonicalName change.name) :
    (change.apply headers).text name = headers.text name := by
  rw [text, get?_apply, if_neg h, ← text]

end Headers

namespace Field

variable {α : Type} {field : Field α} {headers : Headers}

private theorem get_of_text {text : String} {value : α}
    (held : headers.text field.name = .value text) (read : field.read text = .ok value) :
    field.get headers = .ok (.value value) := by
  unfold get
  rw [held]
  dsimp only
  rw [read]

private theorem get_apply_of_ne (change : Headers.Change)
    (h : Headers.canonicalName field.name ≠ Headers.canonicalName change.name) :
    field.get (change.apply headers) = field.get headers := by
  rw [get, Headers.text_apply_of_ne h, ← get]

end Field

namespace SettableField

variable {α : Type} {field : SettableField α}

theorem get_set {value result : α} (written : field.write value ≠ "")
    (back : field.read (field.write value) = .ok result) (headers : Headers) :
    field.get (field.set value headers) = .ok (.value result) := by
  refine Field.get_of_text ?_ back
  rw [set, Headers.text_set_self, if_neg written]

theorem get_clear (headers : Headers) : field.get (field.clear headers) = .ok .empty := by
  rw [Field.get, clear, Headers.clear, Headers.text_set_self, if_pos rfl]

theorem get_erase (headers : Headers) : field.get (field.erase headers) = .ok .absent := by
  rw [Field.get, erase, Headers.text_erase_self]

theorem count_get_set (name : String) (value : UInt64) (headers : Headers) :
    (count name).get ((count name).set value headers) = .ok (.value value) := by
  refine get_set (Integer.writeNat_ne_empty _) ?_ headers
  change readUnsigned (Integer.writeNat value.toNat) = _
  rw [readUnsigned, Integer.readWord_writeNat]

theorem unixTime_get_set (name : String) (time : Timestamp) (headers : Headers) :
    (unixTime name).get ((unixTime name).set time headers) = .ok (.value time.wholeSeconds) := by
  refine get_set (Integer.writeInt_ne_empty _) ?_ headers
  change readUnixTime time.writeUnix = _
  rw [readUnixTime, Timestamp.readUnix_writeUnix]

/-- What is read of the fields of a kind after one of them was changed. -/
structure IsEditable (kind : Kind) (name : String) (field : SettableField α) (headers : Headers) :
    Prop where
  cleared : field.get (field.clear headers) = .ok .empty
  erased : field.get (field.erase headers) = .ok .absent
  others : ∀ other ∈ kind.fields, other.1 ≠ name →
    (∀ value, other.2.field.get (field.set value headers) = other.2.field.get headers) ∧
      other.2.field.get (field.clear headers) = other.2.field.get headers ∧
      other.2.field.get (field.erase headers) = other.2.field.get headers

end SettableField

namespace Headers

open SettableField

variable {kind : Kind} {headers : Headers}

theorem validate_ok_iff : headers.validate kind = .ok () ↔
    ∀ entry ∈ kind.fields, ∃ reading, entry.2.field.get headers = .ok reading := by
  rw [validate_eq_fields, forM_eq_ok_iff]
  refine forall₂_congr fun entry _ => ?_
  rw [← Field.validate_ok_iff, ← AnyField.validate_eq]

theorem validate_error_iff {error : Error} : headers.validate kind = .error error ↔
    ∃ before entry after, kind.fields = before ++ entry :: after ∧
      (∀ earlier ∈ before, ∃ reading, earlier.2.field.get headers = .ok reading) ∧
      entry.2.field.get headers = .error error := by
  rw [validate_eq_fields, forM_eq_error_iff]
  simp only [← Field.validate_ok_iff, ← Field.validate_error_iff, ← AnyField.validate_eq]

private theorem isEditable_of_mem {name : String} {any : AnyField} {field : SettableField any.Value}
    (h : (name, any) ∈ kind.fields) (settable : any.settable? = some field) :
    IsEditable kind name field headers where
  cleared := field.get_clear headers
  erased := field.get_erase headers
  others other further ne := by
    have apart := Kind.name_ne_of_ne h further ne
    rw [← AnyField.field_of_settable? settable] at apart
    refine ⟨fun value => ?_, ?_, ?_⟩
    · exact Field.get_apply_of_ne (.setField field value) apart
    · exact Field.get_apply_of_ne (.clearField field) apart
    · exact Field.get_apply_of_ne (.eraseField field) apart

/--
Validation comes to checking all fields of the kind, although it checks only the numbers and times.
Headers are valid exactly if each of these can be read, and then no field fails; otherwise the error
is that of the first field that does.  A number that is set is read back, a time without its
fraction, and what is done to one field is not seen in another.
-/
theorem typed_fields_read_back (kind : Kind) (headers : Headers) :
    (headers.validate kind = kind.fields.forM fun entry => entry.2.validate headers) ∧
    (∀ any, any ∈ kind.checked ↔ any.IsParsed ∧ ∃ name, (name, any) ∈ kind.fields) ∧
    (headers.validate kind = .ok () ↔ ∀ entry ∈ kind.fields, entry.2.IsParsed →
      ∃ reading, entry.2.field.get headers = .ok reading) ∧
    (headers.validate kind = .ok () → ∀ entry ∈ kind.fields,
      ∃ reading, entry.2.field.get headers = .ok reading) ∧
    (∀ error, headers.validate kind = .error error →
      ∃ before entry after, kind.fields = before ++ entry :: after ∧
        (∀ earlier ∈ before, ∃ reading, earlier.2.field.get headers = .ok reading) ∧
        entry.2.IsParsed ∧ entry.2.field.get headers = .error error ∧
        ∃ fault, error = .badHeader entry.2.field.name fault) ∧
    (∀ name field value, (name, .settableCount field) ∈ kind.fields →
      field.get (field.set value headers) = .ok (.value value)) ∧
    (∀ name field time, (name, .settableTime field) ∈ kind.fields →
      field.get (field.set time headers) = .ok (.value time.wholeSeconds)) ∧
    ∀ name any field, (name, any) ∈ kind.fields → any.settable? = some field →
      IsEditable kind name field headers := by
  refine ⟨validate_eq_fields kind headers, fun _ => Kind.mem_checked_iff, ?_, validate_ok_iff.mp,
    ?_, ?_, ?_, fun _ _ _ h settable => isEditable_of_mem h settable⟩
  · rw [validate_ok_iff]
    refine ⟨fun all entry h _ => all entry h, fun parsed entry h => ?_⟩
    by_cases isParsed : entry.2.IsParsed
    · exact parsed entry h isParsed
    · exact (Kind.isBuilt_of_mem h).get_of_not_isParsed isParsed headers
  · intro error h
    obtain ⟨before, entry, after, split, earlier, failed⟩ := validate_error_iff.mp h
    have mem : entry ∈ kind.fields := split ▸ List.mem_append_right before List.mem_cons_self
    refine ⟨before, entry, after, split, earlier, ?_, failed, Field.badHeader_of_get failed⟩
    by_contra text
    obtain ⟨reading, read⟩ := (Kind.isBuilt_of_mem mem).get_of_not_isParsed text headers
    exact nomatch read.symm.trans failed
  · intro name field value h
    cases Kind.isBuilt_of_mem h with
    | settableCount header => exact count_get_set header value headers
  · intro name field time h
    cases Kind.isBuilt_of_mem h with
    | unixTime header => exact unixTime_get_set header time headers

/-- A time before 1970 loses its fraction, and another time that cannot be read stays unread. -/
theorem typed_fields_read_back_half_second :
    ∃ headers : Headers, ∃ time whole : Timestamp, time.nanoseconds = -1500000000 ∧
      whole.nanoseconds = -1000000000 ∧
      ObjectField.expiresAt.get (ObjectField.expiresAt.set time headers) = .ok (.value whole) ∧
      ObjectField.createdAt.get (ObjectField.expiresAt.set time headers) =
        .error (.badHeader "X-Timestamp" (.notFractional "12.x" .malformed)) := by
  let headers := Headers.ofList [("x-timestamp", "12.x"), ("x-delete-at", "never")]
  obtain ⟨-, -, -, -, -, -, back, editable⟩ := typed_fields_read_back .object headers
  have expires : ("expires_at", .settableTime ObjectField.expiresAt) ∈ Kind.object.fields := by
    simp [Kind.fields]
  have created : ("created_at", .time ObjectField.createdAt) ∈ Kind.object.fields := by
    simp [Kind.fields]
  have kept := ((editable _ _ _ expires rfl).others _ created (by decide)).1
  refine ⟨headers, ⟨-1500000000, by decide⟩, _, rfl, ?_, back _ _ _ expires, (kept _).trans ?_⟩
  · decide
  · change ObjectField.createdAt.get headers = _
    decide +kernel

end Headers

end ObjectStorage
