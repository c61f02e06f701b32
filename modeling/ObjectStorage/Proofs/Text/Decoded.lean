import ObjectStorage.Text.Utf8

/-!
# Decoded bytes

Encoding undoes strict decoding: a character that is read from bytes has these bytes as its
encoding.  What may follow a lead byte is what keeps the number of the character in the range of its
width and clear of the surrogates, so that no other bytes are read as the same character.
-/

namespace ObjectStorage.Utf8

/-! ## The bytes of a character -/

theorem isContinuation_iff {byte : UInt8} :
    isContinuation byte = true ↔ 0x80 ≤ byte.toNat ∧ byte.toNat ≤ 0xBF := by
  simp [isContinuation, UInt8.le_iff_toNat_le]

theorem mayFollow_iff {lead second : UInt8} :
    mayFollow lead second = true ↔
      0xC2 ≤ lead.toNat ∧ lead.toNat ≤ 0xF4 ∧ 0x80 ≤ second.toNat ∧ second.toNat ≤ 0xBF ∧
        (lead.toNat = 0xE0 → 0xA0 ≤ second.toNat) ∧ (lead.toNat = 0xED → second.toNat ≤ 0x9F) ∧
        (lead.toNat = 0xF0 → 0x90 ≤ second.toNat) ∧ (lead.toNat = 0xF4 → second.toNat ≤ 0x8F) := by
  have read := mayFollow_eq lead.toNat second.toNat lead.toNat_lt second.toNat_lt
  rw [UInt8.ofNat_toNat, UInt8.ofNat_toNat] at read
  rw [read, decide_eq_true_eq]
  grind

theorem utf8EncodeChar_ofNat {n : Nat} (valid : n.isValidChar) :
    String.utf8EncodeChar (Char.ofNat n) =
      if n ≤ 0x7F then [UInt8.ofNat n]
      else if n ≤ 0x7FF then [UInt8.ofNat (n / 64 % 32 + 192), UInt8.ofNat (n % 64 + 128)]
      else if n ≤ 0xFFFF then
        [UInt8.ofNat (n / 4096 % 16 + 224), UInt8.ofNat (n / 64 % 64 + 128),
          UInt8.ofNat (n % 64 + 128)]
      else
        [UInt8.ofNat (n / 262144 % 8 + 240), UInt8.ofNat (n / 4096 % 64 + 128),
          UInt8.ofNat (n / 64 % 64 + 128), UInt8.ofNat (n % 64 + 128)] := by
  have value : (Char.ofNat n).val.toNat = n := by
    rw [Char.ofNat, dif_pos valid]
    rfl
  unfold String.utf8EncodeChar
  rw [value]

theorem ofNat_eq_of_toNat {n : Nat} (byte : UInt8) (h : n = byte.toNat) :
    UInt8.ofNat n = byte := by
  rw [h, UInt8.ofNat_toNat]

theorem utf8EncodeChar_one {a : UInt8} (ascii : a < 0x80) :
    String.utf8EncodeChar (Char.ofNat a.toNat) = [a] := by
  have small : a.toNat < 0x80 := UInt8.lt_iff_toNat_lt.mp ascii
  rw [utf8EncodeChar_ofNat (.inl (by omega)), if_pos (by omega), UInt8.ofNat_toNat]

theorem utf8EncodeChar_scalarOfTwo {a b : UInt8} (follows : mayFollow a b = true)
    (two : a < 0xE0) : String.utf8EncodeChar (scalarOfTwo a b) = [a, b] := by
  have narrow : a.toNat < 0xE0 := UInt8.lt_iff_toNat_lt.mp two
  obtain ⟨low, -, least, most, -⟩ := mayFollow_iff.mp follows
  rw [scalarOfTwo, utf8EncodeChar_ofNat (.inl (by omega)), if_neg (by omega), if_pos (by omega),
    ofNat_eq_of_toNat a (by omega), ofNat_eq_of_toNat b (by omega)]

theorem utf8EncodeChar_scalarOfThree {a b c : UInt8} (follows : mayFollow a b = true)
    (wide : ¬a < 0xE0) (three : a < 0xF0) (continued : isContinuation c = true) :
    String.utf8EncodeChar (scalarOfThree a b c) = [a, b, c] := by
  have above : 0xE0 ≤ a.toNat := Nat.not_lt.mp fun h => wide (UInt8.lt_iff_toNat_lt.mpr h)
  have narrow : a.toNat < 0xF0 := UInt8.lt_iff_toNat_lt.mp three
  obtain ⟨-, -, least, most, overlong, surrogate, -, -⟩ := mayFollow_iff.mp follows
  obtain ⟨leastLast, mostLast⟩ := isContinuation_iff.mp continued
  have valid : (a.toNat % 16 * 4096 + b.toNat % 64 * 64 + c.toNat % 64).isValidChar := by
    unfold Nat.isValidChar
    omega
  rw [scalarOfThree, utf8EncodeChar_ofNat valid, if_neg (by omega), if_neg (by omega),
    if_pos (by omega), ofNat_eq_of_toNat a (by omega),
    ofNat_eq_of_toNat b (by omega), ofNat_eq_of_toNat c (by omega)]

theorem utf8EncodeChar_scalarOfFour {a b c d : UInt8} (follows : mayFollow a b = true)
    (wide : ¬a < 0xF0) (continued : isContinuation c = true) (ended : isContinuation d = true) :
    String.utf8EncodeChar (scalarOfFour a b c d) = [a, b, c, d] := by
  have above : 0xF0 ≤ a.toNat := Nat.not_lt.mp fun h => wide (UInt8.lt_iff_toNat_lt.mpr h)
  obtain ⟨-, high, least, most, -, -, overlong, beyond⟩ := mayFollow_iff.mp follows
  obtain ⟨leastThird, mostThird⟩ := isContinuation_iff.mp continued
  obtain ⟨leastLast, mostLast⟩ := isContinuation_iff.mp ended
  have valid : (a.toNat % 8 * 262144 + b.toNat % 64 * 4096 + c.toNat % 64 * 64 +
      d.toNat % 64).isValidChar := by
    unfold Nat.isValidChar
    omega
  rw [scalarOfFour, utf8EncodeChar_ofNat valid, if_neg (by omega), if_neg (by omega),
    if_neg (by omega), ofNat_eq_of_toNat a (by omega),
    ofNat_eq_of_toNat b (by omega), ofNat_eq_of_toNat c (by omega),
    ofNat_eq_of_toNat d (by omega)]

/-! ## Encoding undoes decoding -/

theorem encode_cons (character : Char) (characters : List Char) :
    encode (character :: characters) = String.utf8EncodeChar character ++ encode characters := rfl

private theorem exists_of_cons_eq_map {piece : Piece} {rest : List Piece} {characters : List Char}
    (h : piece :: rest = characters.map .scalar) :
    ∃ character others, piece = .scalar character ∧ characters = character :: others ∧
      rest = others.map .scalar := by
  obtain ⟨character, others, rfl, same, tail⟩ := List.map_eq_cons_iff.mp h.symm
  exact ⟨character, others, same.symm, rfl, tail.symm⟩

theorem encode_of_pieces {bytes : Bytes} {characters : List Char}
    (scalars : pieces bytes = characters.map .scalar) : encode characters = bytes := by
  fun_induction pieces bytes generalizing characters with
  | case1 =>
      rw [List.map_eq_nil_iff.mp scalars.symm]
      rfl
  | case2 a rest ascii ih =>
      obtain ⟨_, others, ⟨⟩, rfl, tail⟩ := exists_of_cons_eq_map scalars
      rw [encode_cons, utf8EncodeChar_one ascii, ih tail]
      rfl
  | case5 a _ b rest follows two ih =>
      obtain ⟨_, others, ⟨⟩, rfl, tail⟩ := exists_of_cons_eq_map scalars
      rw [encode_cons, utf8EncodeChar_scalarOfTwo (by simpa using follows) two, ih tail]
      rfl
  | case8 a _ b follows wide c rest continued three ih =>
      obtain ⟨_, others, ⟨⟩, rfl, tail⟩ := exists_of_cons_eq_map scalars
      rw [encode_cons, utf8EncodeChar_scalarOfThree (by simpa using follows) wide three
        (by simpa using continued), ih tail]
      rfl
  | case11 a _ b follows _ c continued wide d rest ended ih =>
      obtain ⟨_, others, ⟨⟩, rfl, tail⟩ := exists_of_cons_eq_map scalars
      rw [encode_cons, utf8EncodeChar_scalarOfFour (by simpa using follows) wide
        (by simpa using continued) (by simpa using ended), ih tail]
      rfl
  | case3 a =>
      obtain ⟨_, _, broken, -, -⟩ := exists_of_cons_eq_map scalars
      split at broken <;> cases broken
  -- What is left are the pieces that are no character.
  | case4 | case6 | case7 | case9 | case10 =>
      obtain ⟨_, _, ⟨⟩, -, -⟩ := exists_of_cons_eq_map scalars

theorem readPieces_eq_ok_iff {index : Nat} {cut : List Piece} {characters : List Char} :
    readPieces index cut = .ok characters ↔ cut = characters.map .scalar := by
  refine ⟨fun h => ?_, fun h => h ▸ readPieces_scalars index characters⟩
  fun_induction readPieces index cut generalizing characters with
  | case1 => cases h; rfl
  | case2 index character rest read hread ih => cases h; rw [ih hread, List.map_cons]
  | case3 => cases h
  | case4 => cases h
  | case5 => cases h

theorem decode_eq_ok_iff {bytes : Bytes} {text : String} :
    decode bytes = .ok text ↔ ofText text = bytes := by
  refine ⟨fun h => ?_, fun h => h ▸ decode_ofText text⟩
  unfold decode at h
  cases hread : readPieces 0 (pieces bytes) with
  | error fault =>
      rw [hread] at h
      cases h
  | ok characters =>
      rw [hread] at h
      obtain rfl : String.ofList characters = text := Except.ok.inj h
      rw [ofText, String.toList_ofList, encode_of_pieces (readPieces_eq_ok_iff.mp hread)]

end ObjectStorage.Utf8
