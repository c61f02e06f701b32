import ObjectStorage.Headers.Wire
import ObjectStorage.Proofs.Distinct
import ObjectStorage.Proofs.Outcome

/-!
# Names of headers on the wire

Names are looked up in one spelling and sent in lower case.  For most names the spelling can be read
off the wire, so that no other entry of the headers is sent under the same name; a name like `ssx`
stands for two spellings, because the capital of `ß` is written `SS`.
-/

namespace ObjectStorage

namespace Text

open Casing

def small (c : Char) : Char := if isAsciiUpper c then Char.ofNat (c.toNat + 32) else c

theorem toList_asciiLower (text : String) :
    (asciiLower text).toList = text.toList.map small := by
  simp only [asciiLower, String.toList_ofList]
  rfl

/-! ## Characters beyond ASCII -/

theorem toNat_ofNat (n : Nat) : (Char.ofNat n).toNat = n ∨ (Char.ofNat n).toNat = 0 := by
  by_cases valid : n.isValidChar
  · left
    rw [Char.ofNat, dif_pos valid]
    rfl
  · right
    rw [Char.ofNat, dif_neg valid]
    rfl

theorem shifted_beyond {runs : List Run} {listed : List Nat}
    (table : ∀ run ∈ runs, 128 ≤ run.first + run.shift ∨
      run.first = run.last ∧ (run.first + run.shift).toNat ∈ listed)
    {n : Nat} (beyond : 128 ≤ n) : 128 ≤ shifted runs n ∨ shifted runs n ∈ listed := by
  unfold shifted
  cases found : runs.find? fun run => run.covers n with
  | none => exact .inl beyond
  | some run =>
      have covers := List.find?_some found
      simp only [Run.covers, Bool.and_eq_true, decide_eq_true_eq] at covers
      dsimp only
      rcases table run (List.mem_of_find?_eq_some found) with far | ⟨alone, near⟩
      · left
        omega
      · right
        obtain rfl : n = run.first := by omega
        exact near

/-- Several characters of which no name without `s` and `f` at its capitals consists. -/
def isForeign (capital : Bool) : List Char → Bool
  | d :: e :: _ =>
      (capital && (d = 'S' || d = 'F')) || decide (128 ≤ d.toNat) || decide (128 ≤ e.toNat)
  | _ => false

def fits (capital : Bool) (c : Char) : Bool :=
  if capital then !isAsciiLower c else !isAsciiUpper c

private theorem fits_of_beyond {capital : Bool} {n : Nat} (h : 128 ≤ n) :
    fits capital (Char.ofNat n) = true ∧ Char.ofNat n ≠ '-' := by
  have far : ∀ c : Char, c.toNat = n ∨ c.toNat = 0 → fits capital c = true ∧ c ≠ '-' := by
    intro c hc
    constructor
    · cases capital
      · simp [fits, isAsciiUpper]
        omega
      · simp [fits, isAsciiLower]
        omega
    · rintro rfl
      change 45 = n ∨ 45 = 0 at hc
      omega
  exact far _ (toNat_ofNat n)

def cased (capital : Bool) (c : Char) : List Char := if capital then upperCase c else lowerCase c

private theorem cased_ascii : ∀ capital : Bool, ∀ n < 128, ∃ d,
    cased capital (Char.ofNat n) = [d] ∧ fits capital d = true ∧
      (d = '-' ↔ Char.ofNat n = '-') := by
  intro capital n h
  refine ⟨(cased capital (Char.ofNat n)).head!, ?_⟩
  revert capital n
  decide

theorem upperRuns_beyond : ∀ run ∈ upperRuns, 128 ≤ run.first + run.shift ∨
    run.first = run.last ∧ (run.first + run.shift).toNat ∈ [73, 83] := by
  decide +kernel

theorem lowerRuns_beyond : ∀ run ∈ lowerRuns, 128 ≤ run.first + run.shift ∨
    run.first = run.last ∧ (run.first + run.shift).toNat ∈ [107] := by
  decide +kernel

private theorem upperExpansions_foreign :
    ∀ entry ∈ upperExpansions, isForeign true (entry.2.map Char.ofNat) = true := by
  decide +kernel

private theorem lowerExpansions_foreign :
    ∀ entry ∈ lowerExpansions, isForeign false (entry.2.map Char.ofNat) = true := by
  decide

private theorem cased_beyond (capital : Bool) {c : Char} (h : 128 ≤ c.toNat) :
    (∃ d, cased capital c = [d] ∧ fits capital d = true ∧ d ≠ '-') ∨
      isForeign capital (cased capital c) = true := by
  have one {n : Nat} {listed : List Nat} (near : 128 ≤ n ∨ n ∈ listed)
      (suits : ∀ n ∈ listed, fits capital (Char.ofNat n) = true ∧ Char.ofNat n ≠ '-') :
      fits capital (Char.ofNat n) = true ∧ Char.ofNat n ≠ '-' := by
    rcases near with far | near
    · exact fits_of_beyond far
    · exact suits n near
  have several {expansions : List (Nat × List Nat)} {n : Nat} {image : List Nat}
      (table : ∀ entry ∈ expansions, isForeign capital (entry.2.map Char.ofNat) = true)
      (found : expansions.lookup n = some image) :
      isForeign capital (image.map Char.ofNat) = true := by
    obtain ⟨before, after, rfl, -⟩ := List.lookup_eq_some_iff.mp found
    exact table (n, image) (List.mem_append_right before List.mem_cons_self)
  have notAscii : ¬c.toNat < 128 := by omega
  cases capital with
  | true =>
      simp only [cased, upperCase, if_neg notAscii, mapped, if_true]
      cases found : upperExpansions.lookup c.toNat with
      | some image => exact .inr (several upperExpansions_foreign found)
      | none => exact .inl ⟨_, rfl, one (shifted_beyond upperRuns_beyond h) (by decide)⟩
  | false =>
      simp only [cased, lowerCase, if_neg notAscii, mapped, Bool.false_eq_true, if_false]
      cases found : lowerExpansions.lookup c.toNat with
      | some image => exact .inr (several lowerExpansions_foreign found)
      | none => exact .inl ⟨_, rfl, one (shifted_beyond lowerRuns_beyond h) (by decide)⟩

private theorem cased_cases (capital : Bool) (c : Char) :
    (∃ d, cased capital c = [d] ∧ fits capital d = true ∧ (d = '-' ↔ c = '-')) ∨
      isForeign capital (cased capital c) = true := by
  by_cases h : c.toNat < 128
  · have ascii := cased_ascii capital c.toNat h
    rw [Char.ofNat_toNat] at ascii
    exact .inl ascii
  · rcases cased_beyond capital (Nat.le_of_not_lt h) with ⟨d, image, fit, ne⟩ | foreign
    · refine .inl ⟨d, image, fit, fun hd => absurd hd ne, ?_⟩
      rintro rfl
      exact absurd (by decide) h
    · exact .inr foreign

theorem small_of_beyond {c : Char} (h : 128 ≤ c.toNat) : small c = c := by
  rw [small, if_neg]
  simp [isAsciiUpper]
  omega

private theorem small_ascii : ∀ capital : Bool, ∀ n < 128, fits capital (Char.ofNat n) = true →
    cased capital (small (Char.ofNat n)) = [Char.ofNat n] ∧
      (small (Char.ofNat n) = '-' ↔ Char.ofNat n = '-') := by
  decide

end Text

namespace Headers

open Text

/-- Whether no other spelling is sent under this name. -/
def isSettled (capital : Bool) : List Char → Bool
  | [] => true
  | c :: rest =>
      decide (c.toNat < 128) && !(capital && (c = 's' || c = 'f')) && isSettled (c = '-') rest

theorem canonical_cons (capital : Bool) (c : Char) (rest : List Char) :
    canonical capital (c :: rest) = cased capital c ++ canonical (c = '-') rest := by
  cases capital <;> rfl

private theorem not_isSettled_of_isForeign {capital : Bool} {image rest : List Char}
    (foreign : isForeign capital image = true) :
    isSettled capital (image.map small ++ rest) = false := by
  match image with
  | [] | [_] => exact nomatch foreign
  | d :: e :: _ =>
      simp only [isForeign, Bool.or_eq_true, Bool.and_eq_true, decide_eq_true_eq] at foreign
      rcases foreign with (⟨rfl, rfl | rfl⟩ | far) | far
      · rfl
      · rfl
      · simp [isSettled, small_of_beyond far, Nat.not_lt.mpr far]
      · simp [isSettled, small_of_beyond far, Nat.not_lt.mpr far]

private theorem canonical_of_small {capital : Bool} {name wire : List Char}
    (settled : isSettled capital wire = true) (h : (canonical capital name).map small = wire) :
    canonical capital name = canonical capital wire := by
  induction name generalizing capital wire with
  | nil =>
      cases h
      rfl
  | cons c rest ih =>
      rw [canonical_cons, List.map_append] at h
      rcases cased_cases capital c with ⟨d, image, fit, mark⟩ | foreign
      · rw [image, List.map_singleton, List.singleton_append] at h
        subst h
        simp only [isSettled, Bool.and_eq_true, decide_eq_true_eq] at settled
        obtain ⟨⟨ascii, -⟩, settled⟩ := settled
        have below : d.toNat < 128 := by
          refine Nat.lt_of_not_le fun beyond => ?_
          rw [small_of_beyond beyond] at ascii
          exact Nat.not_lt.mpr beyond ascii
        have back := small_ascii capital d.toNat below
        rw [Char.ofNat_toNat] at back
        obtain ⟨back, kept⟩ := back fit
        have flag : decide (small d = '-') = decide (c = '-') := by
          rw [decide_eq_decide, kept, mark]
        rw [flag] at settled
        rw [canonical_cons, canonical_cons, image, back, flag, ← ih settled rfl]
      · subst h
        rw [not_isSettled_of_isForeign foreign] at settled
        exact nomatch settled

theorem canonicalName_of_fieldName? {key wire : String} (spelling : IsSpelling key)
    (settled : isSettled true wire.toList = true) (h : Http.fieldName? key = some wire) :
    key = canonicalName wire := by
  obtain ⟨name, rfl⟩ := spelling
  unfold Http.fieldName? at h
  dsimp only at h
  split at h
  · exact nomatch h
  · have wires : (canonical true name.toList).map small = wire.toList := by
      rw [← Option.some.inj h, toList_asciiLower, canonicalName, String.toList_ofList]
    rw [canonicalName, canonicalName, canonical_of_small settled wires]

/-! ## Fields that are sent -/

variable {headers : Headers} {fields sent : Http.Fields} {wire value : String}

theorem addField_ok {entry : String × String} (h : addField fields entry = .ok sent) :
    ∃ name bytes, Http.fieldName? entry.1 = some name ∧ bytes = Utf8.ofText entry.2 ∧
      sent = fields.replace name bytes := by
  unfold addField at h
  split at h
  · exact nomatch h
  next name named =>
  split at h
  · exact nomatch h
  next bytes valued =>
  cases h
  refine ⟨name, bytes, named, ?_, rfl⟩
  unfold Http.fieldValue? at valued
  dsimp only at valued
  split at valued
  · exact (Option.some.inj valued).symm
  · exact nomatch valued

private theorem get?_foldlM {entries : List (String × String)}
    (h : entries.foldlM addField fields = .ok sent)
    (alone : ∀ entry ∈ entries, Http.fieldName? entry.1 = some wire → entry.2 = value)
    (held : fields.get? wire = some ⟨Utf8.ofText value, []⟩ ∨
      ∃ entry ∈ entries, Http.fieldName? entry.1 = some wire) :
    sent.get? wire = some ⟨Utf8.ofText value, []⟩ := by
  induction entries generalizing fields with
  | nil =>
      cases h
      rcases held with held | ⟨entry, hentry, -⟩
      · exact held
      · exact nomatch hentry
  | cons first rest ih =>
      rw [List.foldlM_cons] at h
      obtain ⟨next, hfirst, hrest⟩ := ok_of_bind h
      obtain ⟨name, bytes, named, rfl, rfl⟩ := addField_ok hfirst
      refine ih hrest (fun entry hentry => alone entry (List.mem_cons_of_mem _ hentry)) ?_
      rw [Http.Fields.replace, Dictionary.get?_insert]
      by_cases here : wire = name
      · left
        rw [if_pos here, alone first List.mem_cons_self (here ▸ named)]
      rw [if_neg here]
      refine held.imp id ?_
      rintro ⟨entry, hentry, hname⟩
      rcases List.mem_cons.mp hentry with rfl | hentry
      · exact absurd (Option.some.inj (hname.symm.trans named)) here
      · exact ⟨entry, hentry, hname⟩

theorem get?_set (headers : Headers) (name value wanted : String) :
    (headers.set name value).get? wanted =
      if canonicalName wanted = canonicalName name then some value else headers.get? wanted :=
  headers.entries.get?_insert _ _ _

theorem get?_toFields (settled : isSettled true wire.toList = true)
    (named : Http.fieldName? (canonicalName wire) = some wire)
    (held : headers.get? wire = some value) (h : headers.toFields = .ok sent) :
    sent.get? wire = some ⟨Utf8.ofText value, []⟩ := by
  have entry : (canonicalName wire, value) ∈ headers.toList :=
    (headers.entries.get?_eq_some_iff _ _).mp held
  refine get?_foldlM h ?_ (.inr ⟨_, entry, named⟩)
  rintro ⟨key, other⟩ hentry hname
  obtain rfl := canonicalName_of_fieldName? (headers.spelled key (List.mem_map_of_mem hentry))
    settled hname
  exact Option.some.inj (((headers.entries.get?_eq_some_iff _ _).mpr hentry).symm.trans held)

end Headers

end ObjectStorage
