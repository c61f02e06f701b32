import ObjectStorage.Text.Percent

/-!
# Tokens of JSON

Bytes are cut into the tokens of JSON.  A string stays as it is written, and a number too: whether
an escape names a character or a number fits a type is asked only of the values that are used.
-/

namespace ObjectStorage.Json

inductive Token where
  | openBrace
  | closeBrace
  | openBracket
  | closeBracket
  | colon
  | comma
  | null
  | bool (value : Bool)
  | number (digits : Bytes)
  | string (written : Bytes)
  deriving DecidableEq, Repr

def isSpace (byte : UInt8) : Bool := byte = 32 || byte = 9 || byte = 10 || byte = 13

def isDigit (byte : UInt8) : Bool := 48 ≤ byte && byte ≤ 57

def isHexDigit (byte : UInt8) : Bool := (Percent.digitValue? byte).isSome

/-- The bytes that may follow a backslash alone: quote, backslash, slash and `bfnrt`. -/
def isShortEscape (byte : UInt8) : Bool := [34, 92, 47, 98, 102, 110, 114, 116].contains byte

/-- The content of a string up to its closing quote, and what stands after that. -/
def readString : Bytes → Option (Bytes × Bytes)
  | [] => none
  | byte :: rest =>
      if byte = 34 then some ([], rest)
      else if byte < 32 then none
      else if byte = 92 then
        match rest with
        | 117 :: a :: b :: c :: d :: rest =>
            if isHexDigit a && isHexDigit b && isHexDigit c && isHexDigit d then
              (readString rest).map fun (content, after) =>
                (92 :: 117 :: a :: b :: c :: d :: content, after)
            else none
        | escape :: rest =>
            if isShortEscape escape then
              (readString rest).map fun (content, after) => (92 :: escape :: content, after)
            else none
        | [] => none
      else (readString rest).map fun (content, after) => (byte :: content, after)

def readDigits (bytes : Bytes) : Option (Bytes × Bytes) :=
  match bytes.takeWhile isDigit with
  | [] => none
  | digits => some (digits, bytes.dropWhile isDigit)

def readInteger (bytes : Bytes) : Option (Bytes × Bytes) :=
  match readDigits bytes with
  | some (48 :: _ :: _, _) => none
  | read => read

def readFraction (bytes : Bytes) : Option (Bytes × Bytes) :=
  match bytes with
  | 46 :: rest => (readDigits rest).map fun (digits, after) => (46 :: digits, after)
  | _ => some ([], bytes)

def readExponent (bytes : Bytes) : Option (Bytes × Bytes) :=
  match bytes with
  | mark :: rest =>
      if mark = 101 ∨ mark = 69 then
        match rest with
        | sign :: rest' =>
            if sign = 43 ∨ sign = 45 then
              (readDigits rest').map fun (digits, after) => (mark :: sign :: digits, after)
            else (readDigits rest).map fun (digits, after) => (mark :: digits, after)
        | [] => none
      else some ([], bytes)
  | [] => some ([], [])

def readNumber (bytes : Bytes) : Option (Bytes × Bytes) := do
  let (sign, rest) := match bytes with
    | 45 :: rest => (([45] : Bytes), rest)
    | _ => ([], bytes)
  let (integer, rest) ← readInteger rest
  let (fraction, rest) ← readFraction rest
  let (exponent, rest) ← readExponent rest
  return (sign ++ integer ++ fraction ++ exponent, rest)

def word (token : Token) (letters : List Char) (bytes : Bytes) : Option (Token × Bytes) :=
  let letters := Utf8.encode letters
  if bytes.take letters.length = letters then some (token, bytes.drop letters.length) else none

def readToken (bytes : Bytes) : Option (Token × Bytes) :=
  match bytes with
  | [] => none
  | 123 :: rest => some (.openBrace, rest)
  | 125 :: rest => some (.closeBrace, rest)
  | 91 :: rest => some (.openBracket, rest)
  | 93 :: rest => some (.closeBracket, rest)
  | 58 :: rest => some (.colon, rest)
  | 44 :: rest => some (.comma, rest)
  | 34 :: rest => (readString rest).map fun (written, after) => (.string written, after)
  | 110 :: _ => word .null ['n', 'u', 'l', 'l'] bytes
  | 116 :: _ => word (.bool true) ['t', 'r', 'u', 'e'] bytes
  | 102 :: _ => word (.bool false) ['f', 'a', 'l', 's', 'e'] bytes
  | _ => (readNumber bytes).map fun (digits, after) => (.number digits, after)

/-- The tokens in reverse; every token takes a byte, so as much fuel as bytes is enough. -/
def readTokens (read : List Token) : Nat → Bytes → Option (List Token)
  | 0, bytes => if bytes.all isSpace then some read.reverse else none
  | fuel + 1, bytes =>
      match bytes.dropWhile isSpace with
      | [] => some read.reverse
      | bytes =>
          match readToken bytes with
          | none => none
          | some (token, rest) => readTokens (token :: read) fuel rest

def tokens? (bytes : Bytes) : Option (List Token) := readTokens [] bytes.length bytes

end ObjectStorage.Json
