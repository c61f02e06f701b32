import ObjectStorage.Text.Utf8

/-!
# Percent encoding

A byte is written as itself or as `%` and two hexadecimal digits.  Which bytes are escaped is a
parameter, because each part of a URL has a set of its own; `decode?_encode` holds for every set
that escapes `%` and the bytes beyond ASCII.
-/

namespace ObjectStorage.Percent

/-! ## Hexadecimal digits -/

def upperDigit (n : Nat) : Char :=
  if n < 10 then Char.ofNat (48 + n) else Char.ofNat (55 + n)

def lowerDigit (n : Nat) : Char :=
  if n < 10 then Char.ofNat (48 + n) else Char.ofNat (87 + n)

def digitValue? (byte : UInt8) : Option Nat :=
  let n := byte.toNat
  if 48 ≤ n ∧ n ≤ 57 then some (n - 48)
  else if 65 ≤ n ∧ n ≤ 70 then some (n - 55)
  else if 97 ≤ n ∧ n ≤ 102 then some (n - 87)
  else none

def hexText (bytes : Bytes) : String :=
  String.ofList (bytes.flatMap fun byte =>
    [lowerDigit (byte.toNat / 16), lowerDigit (byte.toNat % 16)])

/-- The bytes that an even number of hexadecimal digits stand for. -/
def readHex? : List Char → Option Bytes
  | [] => some []
  | a :: b :: rest => do
      let high ← digitValue? (UInt8.ofNat a.toNat)
      let low ← digitValue? (UInt8.ofNat b.toNat)
      return UInt8.ofNat (16 * high + low) :: (← readHex? rest)
  | _ => none

/-! ## Encoding -/

def escapeByte (byte : UInt8) : List Char :=
  ['%', upperDigit (byte.toNat / 16), upperDigit (byte.toNat % 16)]

def encodeByte (escapes : UInt8 → Bool) (byte : UInt8) : List Char :=
  if escapes byte then escapeByte byte else [Char.ofNat byte.toNat]

def encodeBytes (escapes : UInt8 → Bool) (bytes : Bytes) : List Char :=
  bytes.flatMap (encodeByte escapes)

def encode (escapes : UInt8 → Bool) (text : List Char) : List Char :=
  encodeBytes escapes (Utf8.encode text)

/-- Letters, digits and `-_.~`, the characters that no part of a URL gives a meaning to. -/
def isUnreserved (byte : UInt8) : Bool :=
  let n := byte.toNat
  (48 ≤ n && n ≤ 57) || (65 ≤ n && n ≤ 90) || (97 ≤ n && n ≤ 122) ||
    n == 45 || n == 95 || n == 46 || n == 126

def isReserved (byte : UInt8) : Bool := !isUnreserved byte

/-! ## Decoding -/

/-- A `%` that is not followed by two hexadecimal digits stands for itself. -/
def decodeBytes : Bytes → Bytes
  | [] => []
  | first :: rest =>
      if first = 37 then
        match rest with
        | high :: low :: others =>
            match digitValue? high, digitValue? low with
            | some h, some l => UInt8.ofNat (16 * h + l) :: decodeBytes others
            | _, _ => first :: decodeBytes (high :: low :: others)
        | short => first :: decodeBytes short
      else first :: decodeBytes rest

/-- The decoded text, if the decoded bytes are one. -/
def decode? (text : String) : Option String :=
  Utf8.decode? (decodeBytes (Utf8.ofText text))

/-! ## Decoding undoes encoding -/

theorem utf8_of_ascii {n : Nat} (h : n < 128) :
    String.utf8EncodeChar (Char.ofNat n) = [UInt8.ofNat n] := by
  have value : (Char.ofNat n).val.toNat = n := Utf8.toNat_ofNat_of_lt (by omega)
  simp [String.utf8EncodeChar, value, show n ≤ 127 by omega]

theorem upperDigit_ascii : ∀ n < 16, (upperDigit n).toNat < 128 ∧
    digitValue? (UInt8.ofNat (upperDigit n).toNat) = some n := by
  decide

private theorem utf8_upperDigit {n : Nat} (h : n < 16) :
    String.utf8EncodeChar (upperDigit n) = [UInt8.ofNat (upperDigit n).toNat] := by
  have := utf8_of_ascii (upperDigit_ascii n h).1
  rwa [Char.ofNat_toNat] at this

private theorem decodeBytes_escapeByte (byte : UInt8) (rest : Bytes) :
    decodeBytes (Utf8.encode (escapeByte byte) ++ rest) = byte :: decodeBytes rest := by
  have hbyte := byte.toNat_lt
  have high : byte.toNat / 16 < 16 := by omega
  have low : byte.toNat % 16 < 16 := by omega
  have percent : String.utf8EncodeChar '%' = [37] := by decide
  simp only [Utf8.encode, escapeByte, List.flatMap_cons, List.flatMap_nil, percent,
    utf8_upperDigit high, utf8_upperDigit low, List.cons_append, List.nil_append]
  rw [decodeBytes, if_pos rfl]
  simp only [(upperDigit_ascii _ high).2, (upperDigit_ascii _ low).2]
  rw [show 16 * (byte.toNat / 16) + byte.toNat % 16 = byte.toNat by omega, UInt8.ofNat_toNat]

theorem decodeBytes_cons_of_ne {byte : UInt8} (h : byte ≠ 37) (rest : Bytes) :
    decodeBytes (byte :: rest) = byte :: decodeBytes rest := by
  rw [decodeBytes.eq_def]
  simp [h]

theorem decodeBytes_encodeByte {escapes : UInt8 → Bool} (percent : escapes 37 = true)
    (beyond : ∀ byte : UInt8, 128 ≤ byte.toNat → escapes byte = true) (byte : UInt8)
    (rest : Bytes) :
    decodeBytes (Utf8.encode (encodeByte escapes byte) ++ rest) = byte :: decodeBytes rest := by
  by_cases h : escapes byte = true
  · rw [encodeByte, if_pos h, decodeBytes_escapeByte]
  · have ascii : byte.toNat < 128 := by
      by_cases hb : 128 ≤ byte.toNat
      · exact absurd (beyond byte hb) h
      · omega
    have ne : byte ≠ 37 := fun heq => h (heq ▸ percent)
    rw [encodeByte, if_neg h, Utf8.encode, List.flatMap_cons, List.flatMap_nil,
      utf8_of_ascii ascii, UInt8.ofNat_toNat, List.append_nil, List.cons_append, List.nil_append,
      decodeBytes_cons_of_ne ne]

theorem decodeBytes_encodeBytes {escapes : UInt8 → Bool} (percent : escapes 37 = true)
    (beyond : ∀ byte : UInt8, 128 ≤ byte.toNat → escapes byte = true) (bytes rest : Bytes) :
    decodeBytes (Utf8.encode (encodeBytes escapes bytes) ++ rest) = bytes ++ decodeBytes rest := by
  induction bytes with
  | nil => rfl
  | cons byte bytes ih =>
      have split : Utf8.encode (encodeBytes escapes (byte :: bytes)) =
          Utf8.encode (encodeByte escapes byte) ++ Utf8.encode (encodeBytes escapes bytes) := by
        simp [Utf8.encode, encodeBytes, List.flatMap_cons, List.flatMap_append]
      rw [split, List.append_assoc, decodeBytes_encodeByte percent beyond, ih, List.cons_append]

theorem isReserved_beyond (byte : UInt8) (h : 128 ≤ byte.toNat) : isReserved byte = true := by
  simp only [isReserved, isUnreserved, Bool.not_eq_true', Bool.or_eq_false_iff,
    Bool.and_eq_false_iff, decide_eq_false_iff_not, beq_eq_false_iff_ne]
  omega

theorem decode?_encode {escapes : UInt8 → Bool} (percent : escapes 37 = true)
    (beyond : ∀ byte : UInt8, 128 ≤ byte.toNat → escapes byte = true) (text : List Char) :
    decode? (String.ofList (encode escapes text)) = some (String.ofList text) := by
  have h := decodeBytes_encodeBytes percent beyond (Utf8.encode text) []
  rw [List.append_nil, decodeBytes, List.append_nil] at h
  have bytes : Utf8.ofText (String.ofList (encode escapes text)) =
      Utf8.encode (encodeBytes escapes (Utf8.encode text)) := by
    simp [Utf8.ofText, encode]
  have whole : Utf8.encode text = Utf8.ofText (String.ofList text) := by simp [Utf8.ofText]
  rw [decode?, bytes, h, whole, Utf8.decode?_ofText]

theorem decode?_encode_reserved (text : String) :
    decode? (String.ofList (encode isReserved text.toList)) = some text := by
  rw [decode?_encode (by decide) isReserved_beyond, String.ofList_toList]

end ObjectStorage.Percent
