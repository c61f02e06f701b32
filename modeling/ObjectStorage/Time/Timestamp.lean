import ObjectStorage.Text.Split
import ObjectStorage.Text.Scan
import ObjectStorage.Time.Calendar

/-!
# Timestamps

Instants to the nanosecond, from the start of 2 January -9999 to the end of 30 December 9999 as the
outermost zones count them.  Two ways to write one are read here: seconds with a decimal fraction,
and whole seconds.
-/

namespace ObjectStorage

structure Timestamp where
  /-- Nanoseconds since 1970, negative before. -/
  nanoseconds : Int
  inRange : -377705023201 * 1000000000 ≤ nanoseconds ∧
    nanoseconds ≤ 253402207200 * 1000000000 + 999999999

namespace Timestamp

deriving instance DecidableEq for Timestamp

def ofNanoseconds? (nanoseconds : Int) : Option Timestamp :=
  if h : -377705023201 * 1000000000 ≤ nanoseconds ∧
      nanoseconds ≤ 253402207200 * 1000000000 + 999999999 then
    some ⟨nanoseconds, h⟩
  else none

def ofSeconds? (seconds : Int) : Option Timestamp := ofNanoseconds? (seconds * 1000000000)

/-- Whole seconds, the fraction dropped. -/
def seconds (timestamp : Timestamp) : Int := timestamp.nanoseconds.tdiv 1000000000

/-- The nanoseconds beyond the whole seconds, of the same sign. -/
def subsecond (timestamp : Timestamp) : Int := timestamp.nanoseconds.tmod 1000000000

/-- The instant at a date and a time of a zone that is ahead of UTC by `offset` seconds. -/
def ofCivil? (date : Time.Date) (time : Time.TimeOfDay) (offset : Int) : Option Timestamp :=
  ofNanoseconds? ((date.daysSinceEpoch * 86400 - offset) * 1000000000 + time.nanosecondOfDay)

/-! ## Seconds with a fraction -/

inductive FractionalFault where
  | malformed
  | outOfRange
  deriving DecidableEq, Repr

/-- Nine digits of a fraction as nanoseconds; `weight` is what the next digit counts. -/
def addDigits (weight total : Nat) : List Char → Nat
  | [] => total
  | c :: rest => addDigits (weight / 10) (total + (c.toNat - 48) * weight) rest

def nanosecondsOfFraction (digits : List Char) : Nat := addDigits 100000000 0 (digits.take 9)

/-- Digits, and optionally a point and more digits, of which nine count. -/
def readFractional (text : String) : Except FractionalFault Timestamp :=
  let (whole, fraction) := (Text.cut? '.' text.toList).getD (text.toList, [])
  if whole.isEmpty || !whole.all Integer.isDigit || !fraction.all Integer.isDigit then
    .error .malformed
  else match Integer.readUnsigned Integer.maxSignedWord whole with
    | .error _ => .error .malformed
    | .ok seconds =>
        match ofNanoseconds? (seconds * 1000000000 + nanosecondsOfFraction fraction) with
        | some timestamp => .ok timestamp
        | none => .error .outOfRange

/-! ## Whole seconds -/

inductive UnixFault where
  | number (fault : Integer.Fault)
  | outOfRange
  deriving DecidableEq, Repr

def readUnix (text : String) : Except UnixFault Timestamp :=
  match Integer.readSignedWord text with
  | .error fault => .error (.number fault)
  | .ok seconds =>
      match ofSeconds? seconds with
      | some timestamp => .ok timestamp
      | none => .error .outOfRange

def writeUnix (timestamp : Timestamp) : String := Integer.writeInt timestamp.seconds

end Timestamp

end ObjectStorage
