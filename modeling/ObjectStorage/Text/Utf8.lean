/-!
# UTF-8

Bytes of a text and texts of bytes.  `pieces` cuts any byte sequence into characters and malformed
runs, where a malformed run is as long as a beginning of some character can be; strict and lossy
decoding are two readings of the same pieces.  `pieces_encode` says that cutting undoes encoding.
-/

namespace ObjectStorage

abbrev Bytes := List UInt8

namespace Utf8

def encode (characters : List Char) : Bytes :=
  characters.flatMap String.utf8EncodeChar

def ofText (text : String) : Bytes := encode text.toList

/-! ## Cutting bytes into characters -/

inductive Piece where
  | scalar (character : Char)
  /-- Bytes that begin no character, or break one off. -/
  | malformed (width : Nat)
  /-- The beginning of a character at the end of the input. -/
  | truncated (width : Nat)
  deriving DecidableEq, Repr

def isContinuation (byte : UInt8) : Bool := 0x80 ≤ byte && byte ≤ 0xBF

/-- Whether the byte begins a character of more than one byte. -/
def isLead (byte : UInt8) : Bool := 0xC2 ≤ byte && byte ≤ 0xF4

/--
Whether `second` may follow `lead`.  The narrower ranges after `E0`, `ED`, `F0` and `F4` keep out
overlong forms, surrogates and numbers beyond the last code point.
-/
def mayFollow (lead second : UInt8) : Bool :=
  isLead lead &&
    (if lead = 0xE0 then 0xA0 ≤ second && second ≤ 0xBF
     else if lead = 0xED then 0x80 ≤ second && second ≤ 0x9F
     else if lead = 0xF0 then 0x90 ≤ second && second ≤ 0xBF
     else if lead = 0xF4 then 0x80 ≤ second && second ≤ 0x8F
     else isContinuation second)

def scalarOfTwo (a b : UInt8) : Char :=
  Char.ofNat (a.toNat % 32 * 64 + b.toNat % 64)

def scalarOfThree (a b c : UInt8) : Char :=
  Char.ofNat (a.toNat % 16 * 4096 + b.toNat % 64 * 64 + c.toNat % 64)

def scalarOfFour (a b c d : UInt8) : Char :=
  Char.ofNat (a.toNat % 8 * 262144 + b.toNat % 64 * 4096 + c.toNat % 64 * 64 + d.toNat % 64)

def pieces : Bytes → List Piece
  | [] => []
  | a :: afterFirst =>
      if a < 0x80 then .scalar (Char.ofNat a.toNat) :: pieces afterFirst
      else match afterFirst with
        | [] => [if isLead a then .truncated 1 else .malformed 1]
        | b :: afterSecond =>
            if !mayFollow a b then .malformed 1 :: pieces (b :: afterSecond)
            else if a < 0xE0 then .scalar (scalarOfTwo a b) :: pieces afterSecond
            else match afterSecond with
              | [] => [.truncated 2]
              | c :: afterThird =>
                  if !isContinuation c then .malformed 2 :: pieces (c :: afterThird)
                  else if a < 0xF0 then .scalar (scalarOfThree a b c) :: pieces afterThird
                  else match afterThird with
                    | [] => [.truncated 3]
                    | d :: afterFourth =>
                        if !isContinuation d then .malformed 3 :: pieces (d :: afterFourth)
                        else .scalar (scalarOfFour a b c d) :: pieces afterFourth

/-! ## Decoding -/

/-- Where decoding stops: the bytes before are well formed, and `width` is that of the malformed run. -/
inductive Fault where
  | invalid (width index : Nat)
  | incomplete (index : Nat)
  deriving DecidableEq, Repr

def Fault.message : Fault → String
  | .invalid width index =>
      "invalid utf-8 sequence of " ++ toString width ++ " bytes from index " ++ toString index
  | .incomplete index => "incomplete utf-8 byte sequence from index " ++ toString index

/-- Reads pieces as characters, `index` being the number of bytes read before. -/
def readPieces (index : Nat) : List Piece → Except Fault (List Char)
  | [] => .ok []
  | .scalar character :: rest =>
      match readPieces (index + character.utf8Size) rest with
      | .ok characters => .ok (character :: characters)
      | .error fault => .error fault
  | .malformed width :: _ => .error (.invalid width index)
  | .truncated _ :: _ => .error (.incomplete index)

/-- The text whose encoding the bytes are. -/
def decode (bytes : Bytes) : Except Fault String :=
  (readPieces 0 (pieces bytes)).map String.ofList

def decode? (bytes : Bytes) : Option String := (decode bytes).toOption

def Piece.shown : Piece → Char
  | .scalar character => character
  | .malformed _ | .truncated _ => '\uFFFD'

/-- Decoding that puts a replacement character in the place of each malformed run. -/
def decodeLossy (bytes : Bytes) : String :=
  String.ofList ((pieces bytes).map Piece.shown)

/-! ## Decoding undoes encoding -/

theorem mayFollow_eq (a b : Nat) (ha : a < 256) (hb : b < 256) :
    mayFollow (UInt8.ofNat a) (UInt8.ofNat b) = decide (0xC2 ≤ a ∧ a ≤ 0xF4 ∧
      (if a = 0xE0 then 0xA0 ≤ b ∧ b ≤ 0xBF
       else if a = 0xED then 0x80 ≤ b ∧ b ≤ 0x9F
       else if a = 0xF0 then 0x90 ≤ b ∧ b ≤ 0xBF
       else if a = 0xF4 then 0x80 ≤ b ∧ b ≤ 0x8F
       else 0x80 ≤ b ∧ b ≤ 0xBF)) := by
  have equal (n : Nat) (hn : n < 256) : (UInt8.ofNat a = UInt8.ofNat n) ↔ a = n := by
    rw [← UInt8.toNat_inj, UInt8.toNat_ofNat', UInt8.toNat_ofNat']
    omega
  have h1 := equal 0xE0 (by omega)
  have h2 := equal 0xED (by omega)
  have h3 := equal 0xF0 (by omega)
  have h4 := equal 0xF4 (by omega)
  change _ = (0xE0 : UInt8) ↔ _ at h1
  change _ = (0xED : UInt8) ↔ _ at h2
  change _ = (0xF0 : UInt8) ↔ _ at h3
  change _ = (0xF4 : UInt8) ↔ _ at h4
  simp only [mayFollow, isLead, isContinuation, h1, h2, h3, h4, UInt8.le_iff_toNat_le,
    UInt8.toNat_ofNat', UInt8.reduceToNat, Nat.reducePow, Nat.mod_eq_of_lt ha,
    Nat.mod_eq_of_lt hb]
  rw [Bool.eq_iff_iff, decide_eq_true_iff, Bool.and_eq_true, Bool.and_eq_true, decide_eq_true_iff,
    decide_eq_true_iff, and_assoc]
  -- Both sides ask the same of the lead byte, and then branch in the same way over the second.
  refine and_congr_right fun _ => and_congr_right fun _ => ?_
  repeat' first | rw [Bool.and_eq_true, decide_eq_true_iff, decide_eq_true_iff] | split

private theorem isContinuation_low (n : Nat) :
    isContinuation (UInt8.ofNat (n % 64 + 128)) = true := by
  simp only [isContinuation, UInt8.le_iff_toNat_le, UInt8.toNat_ofNat', UInt8.reduceToNat,
    Nat.reducePow, Bool.and_eq_true, decide_eq_true_eq]
  omega

theorem ofNat_lt_iff (a n : Nat) (ha : a < 256) (hn : n < 256) :
    UInt8.ofNat a < UInt8.ofNat n ↔ a < n := by
  simp only [UInt8.lt_iff_toNat_lt, UInt8.toNat_ofNat', Nat.reducePow, Nat.mod_eq_of_lt ha,
    Nat.mod_eq_of_lt hn]

private theorem ofNat_toNat_char (c : Char) (n : Nat) (h : n = c.toNat) : Char.ofNat n = c := by
  subst h
  exact Char.ofNat_toNat c

theorem toNat_ofNat_of_lt {n : Nat} (h : n < 0xD800) : (Char.ofNat n).toNat = n := by
  have valid : n.isValidChar := .inl h
  rw [Char.ofNat, dif_pos valid]
  rfl

theorem pieces_encodeChar (c : Char) (rest : Bytes) :
    pieces (String.utf8EncodeChar c ++ rest) = .scalar c :: pieces rest := by
  have valid : c.toNat < 0xD800 ∨ 0xDFFF < c.toNat ∧ c.toNat < 0x110000 := by
    simpa [UInt32.isValidChar, Nat.isValidChar] using c.valid
  have htoNat : c.val.toNat = c.toNat := rfl
  unfold String.utf8EncodeChar
  simp only [htoNat]
  generalize hn : c.toNat = n at valid
  have back (m : Nat) (h : m = n) : Char.ofNat m = c := ofNat_toNat_char c m (h.trans hn.symm)
  split
  · next h1 =>
    have lead : UInt8.ofNat n < 0x80 := (ofNat_lt_iff n 0x80 (by omega) (by omega)).mpr (by omega)
    rw [List.cons_append, pieces.eq_def]
    simp only [List.nil_append, lead, if_true]
    rw [back _ (by rw [UInt8.toNat_ofNat']; omega)]
  split
  · next h1 h2 =>
    have lead : ¬UInt8.ofNat (n / 64 % 32 + 192) < 0x80 := fun h =>
      absurd ((ofNat_lt_iff _ 0x80 (by omega) (by omega)).mp h) (by omega)
    have two : UInt8.ofNat (n / 64 % 32 + 192) < 0xE0 :=
      (ofNat_lt_iff _ 0xE0 (by omega) (by omega)).mpr (by omega)
    have follows : mayFollow (UInt8.ofNat (n / 64 % 32 + 192)) (UInt8.ofNat (n % 64 + 128)) = true := by
      rw [mayFollow_eq _ _ (by omega) (by omega), decide_eq_true_eq]
      grind
    rw [List.cons_append, pieces.eq_def]
    simp only [List.cons_append, List.nil_append, lead, follows, two, if_true, if_false,
      Bool.not_true, Bool.false_eq_true, scalarOfTwo]
    rw [back _ (by simp only [UInt8.toNat_ofNat']; omega)]
  split
  · next h1 h2 h3 =>
    have lead : ¬UInt8.ofNat (n / 4096 % 16 + 224) < 0x80 := fun h =>
      absurd ((ofNat_lt_iff _ 0x80 (by omega) (by omega)).mp h) (by omega)
    have two : ¬UInt8.ofNat (n / 4096 % 16 + 224) < 0xE0 := fun h =>
      absurd ((ofNat_lt_iff _ 0xE0 (by omega) (by omega)).mp h) (by omega)
    have three : UInt8.ofNat (n / 4096 % 16 + 224) < 0xF0 :=
      (ofNat_lt_iff _ 0xF0 (by omega) (by omega)).mpr (by omega)
    have follows :
        mayFollow (UInt8.ofNat (n / 4096 % 16 + 224)) (UInt8.ofNat (n / 64 % 64 + 128)) = true := by
      rw [mayFollow_eq _ _ (by omega) (by omega), decide_eq_true_eq]
      grind
    rw [List.cons_append, pieces.eq_def]
    simp only [List.cons_append, List.nil_append, lead, follows, two, three, if_true,
      if_false, Bool.not_true, Bool.false_eq_true, isContinuation_low, scalarOfThree]
    rw [back _ (by simp only [UInt8.toNat_ofNat']; omega)]
  · next h1 h2 h3 =>
    have lead : ¬UInt8.ofNat (n / 262144 % 8 + 240) < 0x80 := fun h =>
      absurd ((ofNat_lt_iff _ 0x80 (by omega) (by omega)).mp h) (by omega)
    have two : ¬UInt8.ofNat (n / 262144 % 8 + 240) < 0xE0 := fun h =>
      absurd ((ofNat_lt_iff _ 0xE0 (by omega) (by omega)).mp h) (by omega)
    have three : ¬UInt8.ofNat (n / 262144 % 8 + 240) < 0xF0 := fun h =>
      absurd ((ofNat_lt_iff _ 0xF0 (by omega) (by omega)).mp h) (by omega)
    have follows :
        mayFollow (UInt8.ofNat (n / 262144 % 8 + 240)) (UInt8.ofNat (n / 4096 % 64 + 128)) =
          true := by
      rw [mayFollow_eq _ _ (by omega) (by omega), decide_eq_true_eq]
      grind
    rw [List.cons_append, pieces.eq_def]
    simp only [List.cons_append, List.nil_append, lead, follows, two, three, if_false,
      Bool.not_true, Bool.false_eq_true, isContinuation_low, scalarOfFour]
    rw [back _ (by simp only [UInt8.toNat_ofNat']; omega)]

theorem pieces_encode (characters : List Char) :
    pieces (encode characters) = characters.map .scalar := by
  induction characters with
  | nil => rfl
  | cons c rest ih =>
      rw [encode, List.flatMap_cons, pieces_encodeChar, ← encode, ih]
      rfl

theorem readPieces_scalars (index : Nat) (characters : List Char) :
    readPieces index (characters.map .scalar) = .ok characters := by
  induction characters generalizing index with
  | nil => rfl
  | cons c rest ih => simp [readPieces, ih]

@[simp] theorem decode_ofText (text : String) : decode (ofText text) = .ok text := by
  simp [decode, ofText, pieces_encode, readPieces_scalars, Except.map]

@[simp] theorem decode?_ofText (text : String) : decode? (ofText text) = some text := by
  simp [decode?, Except.toOption]

@[simp] theorem decodeLossy_ofText (text : String) : decodeLossy (ofText text) = text := by
  simp [decodeLossy, ofText, pieces_encode, Function.comp_def, Piece.shown]

end Utf8

end ObjectStorage
