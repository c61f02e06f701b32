import ObjectStorage.Proofs.Text.Decoded

/-!
# Lossy decoding

A malformed run has one to three bytes, and the character in its place has three.  A text is
therefore at most three times as long as the bytes it is decoded from, and longer than these only if
some are malformed.  Where a text is cut off after a number of bytes, this is at most the last
character.
-/

namespace ObjectStorage.Utf8

/-! ## Length -/

def Piece.isBroken : Piece → Bool
  | .scalar _ => false
  | .malformed _ | .truncated _ => true

/-- How many characters stand in the place of malformed runs. -/
def broken (bytes : Bytes) : Nat := (pieces bytes).countP Piece.isBroken

theorem length_encode_cons (character : Char) (characters : List Char) :
    (encode (character :: characters)).length =
      character.utf8Size + (encode characters).length := by
  rw [encode_cons, List.length_append, String.length_utf8EncodeChar]

theorem length_encode_replicate (count : Nat) (c : Char) :
    (encode (List.replicate count c)).length = count * c.utf8Size := by
  induction count with
  | zero => simp [encode]
  | succ count ih =>
      rw [List.replicate_succ, length_encode_cons, ih, Nat.succ_mul, Nat.add_comm]

theorem count_mul_le_length_encode (c : Char) (characters : List Char) :
    characters.count c * c.utf8Size ≤ (encode characters).length := by
  induction characters with
  | nil => simp
  | cons d rest ih =>
      rw [length_encode_cons]
      by_cases same : d = c
      · rw [same, List.count_cons_self, Nat.succ_mul]
        omega
      · rw [List.count_cons_of_ne same]
        omega

theorem encode_append (first second : List Char) :
    encode (first ++ second) = encode first ++ encode second :=
  List.flatMap_append

private theorem utf8Size_of_encodeChar {character : Char} {bytes : Bytes}
    (same : String.utf8EncodeChar character = bytes) : character.utf8Size = bytes.length := by
  rw [← same, String.length_utf8EncodeChar]

theorem utf8Size_replacement : '\uFFFD'.utf8Size = 3 := by
  decide

/-- Whether the characters shown for pieces of so many bytes are no longer than these, but for two
bytes at each malformed run. -/
def AreWithin (cut : List Piece) (length : Nat) : Prop :=
  (encode (cut.map Piece.shown)).length ≤ length + 2 * cut.countP Piece.isBroken

private theorem areWithin_nil : AreWithin [] 0 := Nat.le_refl 0

private theorem AreWithin.cons_scalar {cut : List Piece} {length : Nat} {character : Char}
    {bytes : Bytes} (same : String.utf8EncodeChar character = bytes) (rest : AreWithin cut length) :
    AreWithin (.scalar character :: cut) (length + bytes.length) := by
  unfold AreWithin at *
  rw [List.map_cons, length_encode_cons, List.countP_cons_of_neg (by simp [Piece.isBroken]),
    Piece.shown, utf8Size_of_encodeChar same]
  omega

private theorem AreWithin.cons_broken {cut : List Piece} {length : Nat} {piece : Piece}
    (width : Nat) (broken : piece.isBroken = true) (rest : AreWithin cut length) :
    AreWithin (piece :: cut) (length + (width + 1)) := by
  have size : piece.shown.utf8Size = 3 := by
    cases piece with
    | scalar character => cases broken
    | malformed width | truncated width => exact utf8Size_replacement
  unfold AreWithin at *
  rw [List.map_cons, length_encode_cons, List.countP_cons_of_pos broken, size]
  omega

theorem areWithin_pieces (bytes : Bytes) : AreWithin (pieces bytes) bytes.length := by
  fun_induction pieces bytes with
  | case1 => exact areWithin_nil
  | case2 a rest ascii ih => exact ih.cons_scalar (utf8EncodeChar_one ascii)
  | case5 a _ b rest follows two ih =>
      exact ih.cons_scalar (utf8EncodeChar_scalarOfTwo (by simpa using follows) two)
  | case8 a _ b follows wide c rest continued three ih =>
      exact ih.cons_scalar (utf8EncodeChar_scalarOfThree (by simpa using follows) wide three
        (by simpa using continued))
  | case11 a _ b follows _ c continued wide d rest ended ih =>
      exact ih.cons_scalar (utf8EncodeChar_scalarOfFour (by simpa using follows) wide
        (by simpa using continued) (by simpa using ended))
  | case3 a => exact areWithin_nil.cons_broken 0 (by split <;> rfl)
  | case6 => exact areWithin_nil.cons_broken 1 rfl
  | case9 => exact areWithin_nil.cons_broken 2 rfl
  | case4 _ _ _ _ _ ih => exact ih.cons_broken 0 rfl
  | case7 _ _ _ _ _ _ _ _ ih => exact ih.cons_broken 1 rfl
  | case10 _ _ _ _ _ _ _ _ _ _ _ ih => exact ih.cons_broken 2 rfl

private theorem length_pieces_le (bytes : Bytes) : (pieces bytes).length ≤ bytes.length := by
  fun_induction pieces bytes <;> simp at * <;> omega

theorem broken_le (bytes : Bytes) : broken bytes ≤ bytes.length :=
  Nat.le_trans List.countP_le_length (length_pieces_le bytes)

theorem length_decodeLossy_le (bytes : Bytes) :
    (ofText (decodeLossy bytes)).length ≤ bytes.length + 2 * broken bytes := by
  rw [ofText, decodeLossy, String.toList_ofList]
  exact areWithin_pieces bytes

/-! ## Texts that are cut off -/

private theorem pieces_encode_append (characters : List Char) (rest : Bytes) :
    pieces (encode characters ++ rest) = characters.map .scalar ++ pieces rest := by
  induction characters with
  | nil => rfl
  | cons c others ih =>
      rw [encode_cons, List.append_assoc, pieces_encodeChar, ih, List.map_cons, List.cons_append]

private theorem eq_nil_of_pieces {bytes : Bytes} (none : pieces bytes = []) : bytes = [] := by
  have scalars : pieces bytes = [].map Piece.scalar := none
  exact (encode_of_pieces scalars).symm

private theorem isLead_of_mayFollow {lead second : UInt8} (follows : mayFollow lead second = true) :
    isLead lead = true := by
  rw [mayFollow, Bool.and_eq_true] at follows
  exact follows.1

theorem pieces_take {bytes : Bytes} {character : Char} {length : Nat}
    (whole : pieces bytes = [.scalar character]) (some : 0 < length)
    (part : length < bytes.length) : pieces (bytes.take length) = [.truncated length] := by
  revert whole part
  fun_cases pieces bytes with
  | case2 a rest ascii =>
      intro whole part
      obtain rfl := eq_nil_of_pieces (List.cons.inj whole).2
      simp at part
      omega
  | case3 a =>
      intro whole part
      simp at part
      omega
  | case5 a high b rest follows two =>
      intro whole part
      obtain rfl := eq_nil_of_pieces (List.cons.inj whole).2
      have lead := isLead_of_mayFollow (by simpa using follows)
      obtain rfl : length = 1 := by simp at part; omega
      simp [pieces, high, lead]
  | case8 a high b follows wide c rest continued three =>
      intro whole part
      obtain rfl := eq_nil_of_pieces (List.cons.inj whole).2
      have lead := isLead_of_mayFollow (by simpa using follows)
      obtain rfl | rfl : length = 1 ∨ length = 2 := by simp at part; omega
      · simp [pieces, high, lead]
      · simp [pieces, high, follows, wide]
  | case11 a high b follows notTwo c continued wide d rest ended =>
      intro whole part
      obtain rfl := eq_nil_of_pieces (List.cons.inj whole).2
      have lead := isLead_of_mayFollow (by simpa using follows)
      obtain rfl | rfl | rfl : length = 1 ∨ length = 2 ∨ length = 3 := by simp at part; omega
      · simp [pieces, high, lead]
      · simp [pieces, high, follows, notTwo]
      · simp [pieces, high, follows, notTwo, continued, wide]
  -- What is left begins with no character.
  | case1 | case4 | case6 | case7 | case9 | case10 => simp

/-- The text up to the last character that the limit leaves whole, and the rest of it. -/
structure IsCut (limit : Nat) (text whole rest : List Char) : Prop where
  parts : text = whole ++ rest
  fits : (encode whole).length ≤ limit
  full : ∀ c ∈ rest.head?, limit < (encode whole).length + c.utf8Size

theorem exists_isCut (limit : Nat) (text : List Char) :
    ∃ whole rest, IsCut limit text whole rest := by
  induction text generalizing limit with
  | nil => exact ⟨[], [], rfl, Nat.zero_le limit, by simp⟩
  | cons c others ih =>
      by_cases fits : c.utf8Size ≤ limit
      · obtain ⟨whole, rest, rfl, fit, full⟩ := ih (limit - c.utf8Size)
        refine ⟨c :: whole, rest, rfl, ?_, fun d hd => ?_⟩
        · rw [length_encode_cons]
          omega
        · have beyond := full d hd
          rw [length_encode_cons]
          omega
      · refine ⟨[], c :: others, rfl, Nat.zero_le limit, ?_⟩
        simp [encode]
        omega

/-- What stands for a character that the limit falls into. -/
def remnant (limit : Nat) (whole rest : List Char) : List Char :=
  if rest ≠ [] ∧ (encode whole).length < limit then ['\uFFFD'] else []

theorem count_remnant (limit : Nat) (whole rest : List Char) :
    (remnant limit whole rest).count '\uFFFD' = (remnant limit whole rest).length := by
  unfold remnant
  split <;> rfl

namespace IsCut

variable {limit : Nat} {text whole rest : List Char}

private theorem take_encode (cut : IsCut limit text whole rest) :
    (encode text).take limit =
      encode whole ++ (encode rest).take (limit - (encode whole).length) := by
  rw [cut.parts, encode_append, List.take_append, List.take_of_length_le cut.fits]

/-- Only the last piece of a text that is cut off can be malformed. -/
theorem pieces_take (cut : IsCut limit text whole rest) :
    ∃ last, pieces ((encode text).take limit) = whole.map .scalar ++ last ∧
      last.map Piece.shown = remnant limit whole rest ∧ last.all Piece.isBroken = true := by
  refine ⟨pieces ((encode rest).take (limit - (encode whole).length)), ?_, ?_⟩
  · rw [cut.take_encode, pieces_encode_append]
  · cases rest with
    | nil => simp [encode, pieces, remnant]
    | cons c others =>
        have full : limit < (encode whole).length + c.utf8Size := cut.full c rfl
        by_cases inside : (encode whole).length < limit
        · have short : limit - (encode whole).length < (String.utf8EncodeChar c).length := by
            rw [String.length_utf8EncodeChar]
            omega
          have alone : pieces (String.utf8EncodeChar c) = [.scalar c] := by
            simpa [encode] using pieces_encode [c]
          rw [encode_cons, List.take_append_of_le_length (Nat.le_of_lt short),
            Utf8.pieces_take alone (by omega) short]
          simp [remnant, inside, Piece.shown, Piece.isBroken]
        · have none : limit - (encode whole).length = 0 := by omega
          simp [none, pieces, remnant, inside]

theorem decodeLossy_take (cut : IsCut limit text whole rest) :
    (decodeLossy ((encode text).take limit)).toList = whole ++ remnant limit whole rest := by
  obtain ⟨last, shape, shown, -⟩ := cut.pieces_take
  rw [decodeLossy, String.toList_ofList, shape, List.map_append, shown, List.map_map]
  congr 1
  exact List.map_id whole

theorem broken_take (cut : IsCut limit text whole rest) :
    broken ((encode text).take limit) = (remnant limit whole rest).length := by
  obtain ⟨last, shape, shown, all⟩ := cut.pieces_take
  have none : (whole.map Piece.scalar).countP Piece.isBroken = 0 := by
    simp [List.countP_eq_zero, Piece.isBroken]
  rw [broken, shape, List.countP_append, none, ← shown, List.length_map, Nat.zero_add]
  exact List.countP_eq_length.mpr (List.all_eq_true.mp all)

end IsCut

end ObjectStorage.Utf8
