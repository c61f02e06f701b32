import ObjectStorage.Text.Percent
import ObjectStorage.Text.Split

/-!
# Maps from characters

A map that gives every character a value is described by the characters at which the value changes.
The changes are listed in increasing order, so that the last one before a character is found by
halving.
-/

namespace ObjectStorage.Text

/-- The code points from which on a value holds, with the values, in increasing order. -/
structure CharMap (α : Type) where
  changes : Array (Nat × α)

namespace CharMap

variable {α : Type}

/-! ## Reading a table -/

def hexNumber? (digits : List Char) : Option Nat :=
  digits.foldlM (fun n c => (Percent.digitValue? (UInt8.ofNat c.toNat)).map (16 * n + ·)) 0

def hexChar? (digits : List Char) : Option Char := (hexNumber? digits).map Char.ofNat

/-- An entry of a table: a code point, a colon, and a text. -/
def entry? (text : List Char) : Option (Nat × List Char) := do
  let (start, value) ← cut? ':' text
  return (← hexNumber? start, value)

/-- The entries of the lines, which have blanks between them. -/
def entries (lines : List String) : List (Nat × List Char) :=
  lines.flatMap fun line => (split ' ' line.toList).filterMap entry?

def read (value : List Char → α) (lines : List String) : CharMap α :=
  ⟨((entries lines).map fun entry => (entry.1, value entry.2)).toArray⟩

/-! ## Look-up -/

/-- How many of the entries from `low` to `high` and before begin at or before the code point. -/
def countUpTo (changes : Array (Nat × α)) (point low high : Nat) : Nat :=
  if low < high then
    let middle := (low + high) / 2
    if changes[middle]?.any fun change => change.1 ≤ point then
      countUpTo changes point (middle + 1) high
    else countUpTo changes point low middle
  else low
termination_by high - low

/-- Where the value of the character begins to hold, and the value. -/
def find? (map : CharMap α) (c : Char) : Option (Nat × α) :=
  match countUpTo map.changes c.toNat 0 map.changes.size with
  | 0 => none
  | count + 1 => map.changes[count]?

def get (map : CharMap α) (default : α) (c : Char) : α :=
  match map.find? c with
  | some (_, value) => value
  | none => default

end CharMap

end ObjectStorage.Text
