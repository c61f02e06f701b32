import ObjectStorage.Text.Split
import ObjectStorage.Time.Calendar
import ObjectStorage.Text.Scan

/-!
# Unquoted scalars of TOML

Integers in four bases, floating-point numbers, and dates and times, each from the whole of its
text.  Underscores stand between digits.  What looks like an integer is one of the document, but it
has a value only if it is one indeed.
-/

namespace ObjectStorage.Toml

/-! ## Digits -/

def isHexDigit (c : Char) : Bool :=
  Integer.isDigit c || (65 ≤ c.toNat && c.toNat ≤ 70) || (97 ≤ c.toNat && c.toNat ≤ 102)

def digitValue (c : Char) : Nat :=
  let n := c.toNat
  if n ≤ 57 then n - 48 else if n ≤ 70 then n - 55 else n - 87

def numeral (base : Nat) (digits : List Char) : Nat :=
  digits.foldl (fun n c => base * n + digitValue c) 0

def withoutUnderscores (text : List Char) : List Char := text.filter (· != '_')

/-- Whether the pieces after an underscore begin with digits, and those before one end with them. -/
def piecesFit (isDigit : Char → Bool) : List (List Char) → Bool
  | [] => true
  | [piece] => piece.head?.any isDigit
  | piece :: next :: rest =>
      piece.head?.any isDigit && piece.getLast?.any isDigit && piecesFit isDigit (next :: rest)

/-- Whether underscores stand between digits; the first may stand after a single character. -/
def isGrouped (isDigit : Char → Bool) (text : List Char) : Bool :=
  match Text.split '_' text with
  | first :: next :: rest =>
      !first.isEmpty && (first.length = 1 || first.getLast?.any isDigit) &&
        piecesFit isDigit (next :: rest)
  | _ => true

/-! ## Integers -/

def cutSign (text : List Char) : Bool × List Char :=
  match text with
  | '-' :: rest => (true, rest)
  | '+' :: rest => (false, rest)
  | _ => (false, text)

/-- The value of decimal digits after a sign, if there are no other characters. -/
def decimalValue? (text : List Char) : Option Int :=
  let (negative, digits) := cutSign text
  if digits.isEmpty || !digits.all Integer.isDigit then none
  else some (if negative then -(numeral 10 digits : Int) else numeral 10 digits)

/-- An integer in another base than ten, after the mark of the base. -/
def marked? (base : Nat) (isDigit : Char → Bool) (text : List Char) : Option (Option Int) :=
  let digits := withoutUnderscores text
  if text.isEmpty then some none
  else if digits.all isDigit && isGrouped isDigit text then
    some (some (numeral base digits))
  else none

/--
Whether the text looks like a decimal integer: digits without a zero before them, or digits and
then, from an underscore on, anything but blanks and the marks of a floating-point number.
-/
def looksDecimal (text : List Char) : Bool :=
  let digits := (cutSign text).2
  match digits.dropWhile Integer.isDigit with
  | [] => !digits.isEmpty && (digits.head? ≠ some '0' || digits.length = 1)
  | c :: rest =>
      c = '_' && digits.head? ≠ some '0' && isGrouped isHexDigit text &&
        rest.all fun d => d ≠ ' ' && d ≠ '.' && d ≠ 'e' && d ≠ 'E'

/-- The value of what looks like an integer. -/
def integer? (text : List Char) : Option (Option Int) :=
  match text with
  | '0' :: 'x' :: digits => marked? 16 isHexDigit digits
  | '0' :: 'o' :: digits => marked? 8 (fun c => 48 ≤ c.toNat && c.toNat ≤ 55) digits
  | '0' :: 'b' :: digits => marked? 2 (fun c => c = '0' || c = '1') digits
  | _ => if looksDecimal text then some (decimalValue? (withoutUnderscores text)) else none

/-! ## Floating-point numbers -/

/-- The least power of ten times `digits` that rounds to infinity in 64 bits. -/
def roundsToInfinity (digits : List Char) (exponent : Int) : Bool :=
  let digits := digits.dropWhile (· = '0')
  let magnitude := digits.length + exponent
  let limit := Nat.pow 2 1024 - Nat.pow 2 970
  if digits.isEmpty || magnitude < 300 then false
  else if 320 < magnitude then true
  else if 0 ≤ exponent then limit ≤ numeral 10 digits * Nat.pow 10 exponent.toNat
  else limit * Nat.pow 10 (-exponent).toNat ≤ numeral 10 digits

def isDigitOrUnderscore (c : Char) : Bool := Integer.isDigit c || c = '_'

def floatDigits : Scan (List Char) := do
  let digits := withoutUnderscores (← Scan.takeWhile isDigitOrUnderscore)
  if digits.isEmpty then Scan.fails
  return digits

/-- The digits before the point, without a zero before them. -/
def wholeDigits : Scan (List Char) := do
  let startsWithZero := (← Scan.ahead).head? = some '0'
  let digits ← floatDigits
  if startsWithZero ∧ 1 < digits.length then Scan.fails
  return digits

def fractionDigits : Scan (List Char) := do
  if ← Scan.char? '.' then floatDigits else return []

def exponent : Scan Int := do
  match ← Scan.ahead with
  | 'e' :: _ | 'E' :: _ =>
      let _ ← Scan.item
      let negative ← Scan.char? '-'
      if !negative then let _ ← Scan.char? '+'
      let digits ← floatDigits
      return if negative then -(numeral 10 digits : Int) else numeral 10 digits
  | _ => return 0

/-- A number with a fraction or exponent; whether it is too large for 64 bits. -/
def floatNumber : Scan Bool := do
  let whole ← wholeDigits
  let fraction ← fractionDigits
  let exponent ← exponent
  return roundsToInfinity (whole ++ fraction) (exponent - fraction.length)

/-- Whether the text is a floating-point number, and if so, whether it is too large. -/
def float? (text : List Char) : Option Bool :=
  let number := (cutSign text).2
  if number = ['i', 'n', 'f'] ∨ number = ['n', 'a', 'n'] then some false
  else if isGrouped Integer.isDigit text then floatNumber.run? number
  else none

/-! ## Dates and times -/

def date : Scan Unit := do
  let year ← Scan.digits 4
  Scan.char '-'
  let month ← Scan.digits 2
  Scan.char '-'
  let day ← Scan.digits 2
  if (Time.Date.of? year month day).isNone then Scan.fails

def time : Scan Unit := do
  let _ ← Scan.digitsWithin 2 0 23
  Scan.char ':'
  let _ ← Scan.digitsWithin 2 0 59
  if ← Scan.char? ':' then
    let _ ← Scan.digitsWithin 2 0 60
    if ← Scan.char? '.' then
      let fraction ← Scan.takeWhile Integer.isDigit
      if fraction.isEmpty then Scan.fails

def offset : Scan Unit := do
  match ← Scan.ahead with
  | [] => return ()
  | mark :: _ =>
      let _ ← Scan.item
      if mark = '+' ∨ mark = '-' then
        let _ ← Scan.digitsWithin 2 0 23
        Scan.char ':'
        let _ ← Scan.digitsWithin 2 0 59
      else unless mark = 'Z' ∨ mark = 'z' do Scan.fails

def dateAndTime : Scan Unit := do
  date
  match ← Scan.ahead with
  | [] => return ()
  | separator :: _ =>
      let _ ← Scan.item
      unless separator = 'T' ∨ separator = 't' ∨ separator = ' ' do Scan.fails
      time
      offset

def isDateTime (text : List Char) : Bool :=
  (dateAndTime.run? text).isSome || (time.run? text).isSome

end ObjectStorage.Toml
