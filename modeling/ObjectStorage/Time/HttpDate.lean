import ObjectStorage.Time.Timestamp

/-!
# Dates of HTTP header fields

Dates as mail messages write them: an optional weekday, which must be that of the date, then day,
month name, year, time and zone.  Old forms are read too: years of two and three digits, zones by
name, and a comment in parentheses at the end.
-/

namespace ObjectStorage.Time.HttpDate

def isSpace (c : Char) : Bool :=
  c = ' ' || c = '\t' || c = '\n' || c.toNat = 0x0C || c = '\r'

def lower (c : Char) : Char :=
  if 65 ≤ c.toNat ∧ c.toNat ≤ 90 then Char.ofNat (c.toNat + 32) else c

def skipSpace : Scan Bool := do
  let spaces ← Scan.takeWhile isSpace
  return !spaces.isEmpty

def space : Scan Unit := do
  if ← skipSpace then return () else Scan.fails

def weekdayNames : List String := ["sun", "mon", "tue", "wed", "thu", "fri", "sat"]

def monthNames : List String :=
  ["jan", "feb", "mar", "apr", "may", "jun", "jul", "aug", "sep", "oct", "nov", "dec"]

/-- Three letters, in any case, that are one of the names. -/
def name (names : List String) : Scan Nat := fun text =>
  let word := String.ofList ((text.take 3).map lower)
  match names.findIdx? (· == word) with
  | some index => some (index, text.drop 3)
  | none => none

/-- The weekday before the comma; there is none if the text goes on with a digit. -/
def weekday : Scan (Option Nat) := do
  match ← Scan.ahead with
  | [] => Scan.fails
  | c :: _ =>
      if Integer.isDigit c then return none
      let day ← name weekdayNames
      let _ ← skipSpace
      Scan.char ','
      let _ ← skipSpace
      return some day

/-- One digit, or two if two are ahead. -/
def day : Scan Nat := do
  let text ← Scan.ahead
  let two := match text with
    | _ :: second :: _ => Integer.isDigit second
    | _ => false
  let day ← Scan.digitsWithin (if two then 2 else 1) 1 31
  space
  return day

def month : Scan Nat := do
  let index ← name monthNames
  space
  return index + 1

/-- Two to four digits; with two, those up to 49 are of this century, and three count from 1900. -/
def year : Scan Int := do
  let text ← Scan.ahead
  let count := ((text.take 4).takeWhile Integer.isDigit).length
  if count ≤ 1 then Scan.fails
  let n ← Scan.digits count
  space
  return if count = 4 then (n : Int) else if count = 2 ∧ n ≤ 49 then n + 2000 else n + 1900

def time : Scan TimeOfDay := do
  let hour ← Scan.digitsWithin 2 0 23
  let _ ← skipSpace
  Scan.char ':'
  let _ ← skipSpace
  let minute ← Scan.digitsWithin 2 0 59
  let spaced ← skipSpace
  if ← Scan.char? ':' then
    let _ ← skipSpace
    let second ← Scan.second
    space
    return ⟨hour, minute, second, 0⟩
  else if spaced then return ⟨hour, minute, 0, 0⟩
  else Scan.fails

/-- Zones that have names with a meaning, in hours ahead of UTC. -/
def namedZones : List (String × Int) :=
  [("ut", 0), ("gmt", 0), ("z", 0), ("est", -5), ("edt", -4), ("cst", -6), ("cdt", -5),
   ("mst", -7), ("mdt", -6), ("pst", -8), ("pdt", -7)]

def isLowerLetter (c : Char) : Bool := 97 ≤ c.toNat && c.toNat ≤ 122

/-- A zone by its name; any other single letter but J, and any other three to five, are UTC. -/
def zoneOfName? (word : List Char) : Option Int :=
  match namedZones.lookup (String.ofList word) with
  | some hours => some (3600 * hours)
  | none =>
      if word.all isLowerLetter && (3 ≤ word.length || word.length = 1 && word != ['j']) then some 0
      else none

def zoneName : Scan Int := fun text =>
  let word := (text.take 5).takeWhile fun c => !isSpace c
  match zoneOfName? (word.map lower) with
  | some offset => some (offset, text.drop word.length)
  | none => none

/-- Seconds that the zone is ahead of UTC. -/
def zone : Scan Int := do
  let signed : Bool → Scan Int := fun ahead => do
    let _ ← Scan.item
    let hours ← Scan.digitsWithin 2 0 25
    let minutes ← Scan.digitsWithin 2 0 59
    let seconds : Int := hours * 3600 + minutes * 60
    return if ahead then seconds else -seconds
  match ← Scan.ahead with
  | '+' :: _ => signed true
  | '-' :: _ => signed false
  | _ => zoneName

/-- What follows a comment whose parentheses are `depth` deep; a backslash takes one character along. -/
def afterComment (depth : Nat) : List Char → Option (List Char)
  | [] => none
  | '\\' :: _ :: rest => afterComment depth rest
  | ')' :: rest => if depth ≤ 1 then some rest else afterComment (depth - 1) rest
  | '(' :: rest => if depth ≥ 255 then none else afterComment (depth + 1) rest
  | _ :: rest => afterComment depth rest

def comment : Scan Unit := fun text =>
  match text with
  | '(' :: rest => (afterComment 1 rest).map fun rest => ((), rest.dropWhile isSpace)
  | _ => some ((), text)

def timestamp : Scan Timestamp := do
  let _ ← skipSpace
  let named ← weekday
  let day ← day
  let month ← month
  let year ← year
  let time ← time
  let some date := Date.of? year month day | Scan.fails
  if named.any (· != date.weekday) then Scan.fails
  let offset ← zone
  let _ ← skipSpace
  comment
  let some timestamp := Timestamp.ofCivil? date time offset | Scan.fails
  return timestamp

def read? (text : String) : Option Timestamp := timestamp.run? text.toList

end ObjectStorage.Time.HttpDate
