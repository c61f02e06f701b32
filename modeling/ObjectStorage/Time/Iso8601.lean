import ObjectStorage.Time.Timestamp

/-!
# Dates and times of ISO 8601

A date and a time with the separators inside either all written or all left out; minutes, seconds
and a fraction may be missing from the right.  The text names no zone and is taken as UTC.
-/

namespace ObjectStorage.Time.Iso8601

/-- Four digits, or a sign and six. -/
def year : Scan Int := do
  match ← Scan.ahead with
  | '+' :: _ =>
      Scan.char '+'
      let n ← Scan.digitsWithin 6 0 9999
      return n
  | '-' :: _ =>
      Scan.char '-'
      let n ← Scan.digitsWithin 6 1 9999
      return -(n : Int)
  | _ =>
      let n ← Scan.digits 4
      return n

def date : Scan Date := do
  let year ← year
  let separated ← Scan.char? '-'
  let month ← Scan.digits 2
  if separated then Scan.char '-'
  let day ← Scan.digits 2
  let some date := Date.of? year month day | Scan.fails
  return date

/-- Whether another part of the time is ahead, its separator taken. -/
def another (separated : Bool) : Scan Bool := do
  if separated then Scan.char? ':'
  else match ← Scan.ahead with
    | first :: second :: _ => return Integer.isDigit first && Integer.isDigit second
    | _ => return false

/-- One to nine digits after a point or a comma, as nanoseconds. -/
def fraction : Scan Nat := do
  match ← Scan.ahead with
  | c :: _ =>
      if c = '.' ∨ c = ',' then
        let _ ← Scan.item
        let digits ← Scan.takeWhile Integer.isDigit
        if digits.isEmpty ∨ 9 < digits.length then Scan.fails
        return Timestamp.nanosecondsOfFraction digits
      else return 0
  | [] => return 0

def time : Scan TimeOfDay := do
  let hour ← Scan.digitsWithin 2 0 23
  let separated := (← Scan.ahead).head? == some ':'
  unless ← another separated do return ⟨hour, 0, 0, 0⟩
  let minute ← Scan.digitsWithin 2 0 59
  unless ← another separated do return ⟨hour, minute, 0, 0⟩
  let second ← Scan.second
  let nanosecond ← fraction
  return ⟨hour, minute, second, nanosecond⟩

def timestamp : Scan Timestamp := do
  let date ← date
  let separator ← Scan.item
  unless separator = ' ' ∨ separator = 'T' ∨ separator = 't' do Scan.fails
  let time ← time
  let some timestamp := Timestamp.ofCivil? date time 0 | Scan.fails
  return timestamp

def read? (text : String) : Option Timestamp := timestamp.run? text.toList

end ObjectStorage.Time.Iso8601
