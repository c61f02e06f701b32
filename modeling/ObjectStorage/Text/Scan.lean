import ObjectStorage.Text.Integer

/-!
# Scanning a text from the left

Small readers that take characters off the front of a text or fail.
-/

namespace ObjectStorage

abbrev Scan := StateT (List Char) Option

namespace Scan

def ahead : Scan (List Char) := get

def fails {α : Type} : Scan α := fun _ => none

def item : Scan Char := fun text =>
  match text with
  | [] => none
  | c :: rest => some (c, rest)

def char (wanted : Char) : Scan Unit := fun text =>
  match text with
  | [] => none
  | c :: rest => if c = wanted then some ((), rest) else none

/-- Takes the character if it is ahead, and says whether it was. -/
def char? (wanted : Char) : Scan Bool := fun text =>
  match text with
  | [] => some (false, [])
  | c :: rest => if c = wanted then some (true, rest) else some (false, c :: rest)

def takeWhile (accepts : Char → Bool) : Scan (List Char) := fun text =>
  some (text.takeWhile accepts, text.dropWhile accepts)

def numberOf (digits : List Char) : Nat :=
  digits.foldl (fun n c => 10 * n + (c.toNat - 48)) 0

/-- Exactly `count` digits, as a number. -/
def digits (count : Nat) : Scan Nat := fun text =>
  let taken := text.take count
  if taken.length = count ∧ taken.all Integer.isDigit then some (numberOf taken, text.drop count)
  else none

/-- A number of exactly `count` digits from `least` to `greatest`. -/
def digitsWithin (count least greatest : Nat) : Scan Nat := do
  let n ← digits count
  if least ≤ n ∧ n ≤ greatest then return n else fails

/-- Two digits of a second; the leap second 60 is read as 59. -/
def second : Scan Nat := do
  let n ← digitsWithin 2 0 60
  return min n 59

/-- The value read, if nothing of the text is left. -/
def run? {α : Type} (scan : Scan α) (text : List Char) : Option α :=
  match scan text with
  | some (value, []) => some value
  | _ => none

end Scan

end ObjectStorage
