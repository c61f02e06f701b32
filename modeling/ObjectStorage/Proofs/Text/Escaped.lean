import ObjectStorage.Url.Escape

/-!
# The characters of percent-encoded texts

A text that was percent-encoded holds the characters of the original that are written as
themselves, percent signs and hexadecimal digits, and nothing else.  A text of characters that are
written as themselves is not changed by encoding it, so that what was encoded for a part of a URL
can be put into that part again.
-/

namespace ObjectStorage

/-- The characters of a text are checked one by one, not with all the characters that there are. -/
theorem Text.forall_of_all {P : Char → Prop} [DecidablePred P] {text : List Char}
    (h : (text.all fun c => decide (P c)) = true) : ∀ c ∈ text, P c := by
  simpa using h

theorem Text.ascii_of_isAlphanum {c : Char} (h : c.isAlphanum = true) : c.toNat < 128 := by
  delta Char.isAlphanum Char.isAlpha Char.isUpper Char.isLower Char.isDigit at h
  simp only [Bool.or_eq_true, Bool.and_eq_true, decide_eq_true_eq, UInt32.le_iff_toNat_le] at h
  have value : c.val.toNat = c.toNat := rfl
  have : 'Z'.val.toNat = 90 := rfl
  have : 'z'.val.toNat = 122 := rfl
  have : '9'.val.toNat = 57 := rfl
  omega

namespace Percent

/-- Whether the character is written as itself where the bytes are escaped. -/
def isKept (escapes : UInt8 → Bool) (c : Char) : Bool :=
  c.toNat < 128 && !escapes (UInt8.ofNat c.toNat)

/-- What holds of the characters of ASCII that are kept is a check of 128 cases. -/
theorem forall_kept {escapes : UInt8 → Bool} {P : Char → Prop}
    (check : ∀ n < 128, isKept escapes (Char.ofNat n) = true → P (Char.ofNat n)) {c : Char}
    (h : isKept escapes c = true) : P c := by
  have small := h
  simp only [isKept, Bool.and_eq_true, decide_eq_true_eq] at small
  have := check c.toNat small.1
  rw [Char.ofNat_toNat] at this
  exact this h

/-! ## Bytes of a character -/

theorem utf8_of_lt {c : Char} (h : c.toNat < 128) :
    String.utf8EncodeChar c = [UInt8.ofNat c.toNat] := by
  have := utf8_of_ascii h
  rwa [Char.ofNat_toNat] at this

private theorem le_of_mem_utf8 {c : Char} (h : 128 ≤ c.toNat) {byte : UInt8}
    (hbyte : byte ∈ String.utf8EncodeChar c) : 128 ≤ byte.toNat := by
  have value : c.val.toNat = c.toNat := rfl
  have bound : c.toNat < 0x110000 := by
    have := c.valid
    simp only [UInt32.isValidChar, Nat.isValidChar] at this
    omega
  simp only [String.utf8EncodeChar, value] at hbyte
  split at hbyte
  · omega
  split at hbyte
  · simp only [List.mem_cons, List.not_mem_nil, or_false] at hbyte
    rcases hbyte with rfl | rfl <;> simp only [UInt8.toNat_ofNat'] <;> omega
  split at hbyte
  · simp only [List.mem_cons, List.not_mem_nil, or_false] at hbyte
    rcases hbyte with rfl | rfl | rfl <;> simp only [UInt8.toNat_ofNat'] <;> omega
  · simp only [List.mem_cons, List.not_mem_nil, or_false] at hbyte
    rcases hbyte with rfl | rfl | rfl | rfl <;> simp only [UInt8.toNat_ofNat'] <;> omega

theorem mem_of_mem_utf8 {text : List Char} {byte : UInt8} (h : byte ∈ Utf8.encode text)
    (ascii : byte.toNat < 128) : Char.ofNat byte.toNat ∈ text := by
  obtain ⟨c, hc, hbyte⟩ := List.mem_flatMap.mp h
  by_cases small : c.toNat < 128
  · rw [utf8_of_lt small, List.mem_singleton] at hbyte
    subst hbyte
    have : (UInt8.ofNat c.toNat).toNat = c.toNat := by
      rw [UInt8.toNat_ofNat']
      omega
    rwa [this, Char.ofNat_toNat]
  · have := le_of_mem_utf8 (Nat.le_of_not_lt small) hbyte
    omega

/-! ## Characters of an encoded text -/

/-- Whether the character is a percent sign or a digit of an escaped byte. -/
def isEscapeChar (c : Char) : Bool := c = '%' || "0123456789ABCDEF".toList.contains c

theorem forall_escapeChar {P : Char → Prop} (check : ∀ c ∈ '%' :: "0123456789ABCDEF".toList, P c)
    {c : Char} (h : isEscapeChar c = true) : P c := by
  refine check c ?_
  simp only [isEscapeChar, Bool.or_eq_true, decide_eq_true_eq, List.contains_iff_mem] at h
  exact List.mem_cons.mpr h

private theorem isEscapeChar_upperDigit : ∀ n < 16, isEscapeChar (upperDigit n) = true := by decide

theorem isEscapeChar_of_mem_escapeByte {byte : UInt8} {c : Char} (h : c ∈ escapeByte byte) :
    isEscapeChar c = true := by
  have bound := byte.toNat_lt
  simp only [escapeByte, List.mem_cons, List.not_mem_nil, or_false] at h
  rcases h with rfl | rfl | rfl
  · decide
  · exact isEscapeChar_upperDigit _ (by omega)
  · exact isEscapeChar_upperDigit _ (by omega)

theorem mem_encode {escapes : UInt8 → Bool}
    (beyond : ∀ byte : UInt8, 128 ≤ byte.toNat → escapes byte = true) {text : List Char} {c : Char}
    (h : c ∈ encode escapes text) :
    c ∈ text ∧ isKept escapes c = true ∨ isEscapeChar c = true := by
  obtain ⟨byte, hbyte, hc⟩ := List.mem_flatMap.mp h
  unfold encodeByte at hc
  split at hc
  · exact .inr (isEscapeChar_of_mem_escapeByte hc)
  · next hkept =>
    have ascii : byte.toNat < 128 := by
      by_cases hb : 128 ≤ byte.toNat
      · exact absurd (beyond byte hb) hkept
      · omega
    rw [List.mem_singleton] at hc
    subst hc
    have value : (Char.ofNat byte.toNat).toNat = byte.toNat :=
      Utf8.toNat_ofNat_of_lt (by omega)
    refine .inl ⟨mem_of_mem_utf8 hbyte ascii, ?_⟩
    simp [isKept, value, ascii, hkept]

theorem encode_of_kept {escapes : UInt8 → Bool} {text : List Char}
    (h : ∀ c ∈ text, isKept escapes c = true) : encode escapes text = text := by
  induction text with
  | nil => rfl
  | cons c rest ih =>
      have hc := h c List.mem_cons_self
      simp only [isKept, Bool.and_eq_true, decide_eq_true_eq, Bool.not_eq_true'] at hc
      have value : (UInt8.ofNat c.toNat).toNat = c.toNat := by
        rw [UInt8.toNat_ofNat']
        omega
      have first : encodeBytes escapes (String.utf8EncodeChar c) = [c] := by
        simp [utf8_of_lt hc.1, encodeBytes, encodeByte, hc.2, value, Char.ofNat_toNat]
      have split : encode escapes (c :: rest) =
          encodeBytes escapes (String.utf8EncodeChar c) ++ encode escapes rest := by
        simp [encode, Utf8.encode, encodeBytes]
      rw [split, first, ih fun d hd => h d (List.mem_cons_of_mem _ hd)]
      rfl

end Percent

/-! ## Parts of URLs -/

namespace Url

open Percent

/-- A set of bytes that are escaped in some part of a URL: nothing can be lost by encoding twice. -/
structure IsPartSet (escapes : UInt8 → Bool) : Prop where
  beyond : ∀ byte : UInt8, 128 ≤ byte.toNat → escapes byte = true
  controls : ∀ c : Char, c.toNat ≤ 0x20 → isKept escapes c = false
  stable : ∀ c : Char, isEscapeChar c = true → isKept escapes c = true

theorem isPartSet_of_check {escapes : UInt8 → Bool}
    (beyond : ∀ n < 256, 128 ≤ n → escapes (UInt8.ofNat n) = true)
    (controls : ∀ n ≤ 0x20, isKept escapes (Char.ofNat n) = false)
    (stable : ('%' :: "0123456789ABCDEF".toList).all (isKept escapes) = true) :
    IsPartSet escapes where
  beyond byte h := by
    have := beyond byte.toNat byte.toNat_lt h
    rwa [UInt8.ofNat_toNat] at this
  controls c h := by
    have := controls c.toNat h
    rwa [Char.ofNat_toNat] at this
  stable _ h := forall_escapeChar (List.all_eq_true.mp stable) h

theorem isPartSet_userinfo : IsPartSet escapedInUserinfo :=
  isPartSet_of_check (by decide +kernel) (by decide) (by decide)

theorem isPartSet_path : IsPartSet escapedInPath :=
  isPartSet_of_check (by decide +kernel) (by decide) (by decide)

theorem isPartSet_query : IsPartSet escapedInQuery :=
  isPartSet_of_check (by decide +kernel) (by decide) (by decide)

theorem isPartSet_specialQuery : IsPartSet escapedInSpecialQuery :=
  isPartSet_of_check (by decide +kernel) (by decide) (by decide)

theorem isPartSet_fragment : IsPartSet escapedInFragment :=
  isPartSet_of_check (by decide +kernel) (by decide) (by decide)

section

variable {escapes : UInt8 → Bool} {text : List Char} {c : Char}

theorem mem_of_mem_content (h : c ∈ content text) : c ∈ text :=
  (List.mem_filter.mp h).1

theorem content_of_clean (h : ∀ c ∈ text, isTabOrLineEnd c = false) : content text = text :=
  List.filter_eq_self.mpr fun c hc => by simp [h c hc]

theorem isTabOrLineEnd_of_lt (h : 0x20 < c.toNat) : isTabOrLineEnd c = false := by
  have ne (d : Char) (hd : d.toNat ≤ 0x20) : c ≠ d := fun heq => by
    subst heq
    omega
  simp [isTabOrLineEnd, ne '\t' (by decide), ne '\n' (by decide), ne '\r' (by decide)]

theorem IsPartSet.lt_of_kept (set : IsPartSet escapes) (h : isKept escapes c = true) :
    0x20 < c.toNat := by
  by_cases hc : c.toNat ≤ 0x20
  · rw [set.controls c hc] at h
    exact nomatch h
  · omega

theorem IsPartSet.kept_of_mem (set : IsPartSet escapes) (h : c ∈ (escaped escapes text).toList) :
    isKept escapes c = true := by
  rw [escaped, String.toList_ofList] at h
  rcases mem_encode set.beyond h with ⟨-, hc⟩ | hc
  · exact hc
  · exact set.stable c hc

theorem IsPartSet.origin_of_mem (set : IsPartSet escapes)
    (h : c ∈ (escaped escapes text).toList) : c ∈ text ∨ isEscapeChar c = true := by
  rw [escaped, String.toList_ofList] at h
  exact (mem_encode set.beyond h).imp (fun hc => mem_of_mem_content hc.1) id

theorem IsPartSet.escaped_of_kept (set : IsPartSet escapes)
    (h : ∀ c ∈ text, isKept escapes c = true) : escaped escapes text = String.ofList text := by
  rw [escaped, content_of_clean fun c hc => isTabOrLineEnd_of_lt (set.lt_of_kept (h c hc)),
    encode_of_kept h]

end

end Url

end ObjectStorage
