import ObjectStorage.Text.CharMap
import ObjectStorage.Text.Normal.Table

/-!
# Composed normal form

Texts that are written in the same way can hold different characters: a letter with a mark may be
one character or two, and marks on different sides of a letter may stand in any order.  The normal
form takes letters and marks apart, sorts the marks by their classes, and puts together what can be
composed.
-/

namespace ObjectStorage.Text

namespace Normal

/-! ## Tables -/

def classes : CharMap Nat :=
  CharMap.read (fun digits => digits.foldl (fun n c => 10 * n + (c.toNat - 48)) 0) classChanges

def marks : CharMap Bool := CharMap.read (· = ['m']) markChanges

/-- The composed characters, each with the two it is composed of. -/
def compositions : List (Char × Char × Char) :=
  (CharMap.entries composed).filterMap fun (point, parts) => do
    let (first, second) ← cut? '.' parts
    return (Char.ofNat point, ← CharMap.hexChar? first, ← CharMap.hexChar? second)

/-! ## Properties of characters -/

/-- Whether the character is, or is beyond, the first of the combining characters. -/
def mayCombine (c : Char) : Bool := 0x300 ≤ c.toNat

/-- The class of a combining character; 0 if it keeps its place, as all others do. -/
def combiningClass (c : Char) : Nat := if mayCombine c then classes.get 0 c else 0

def isMark (c : Char) : Bool := mayCombine c && marks.get false c

/-! ## Composition of two characters -/

/-- A syllable of two or three letters of the Korean script. -/
def syllable? (first second : Char) : Option Char :=
  let a := first.toNat
  let b := second.toNat
  if 0x1100 ≤ a ∧ a < 0x1113 ∧ 0x1161 ≤ b ∧ b < 0x1176 then
    some (Char.ofNat (0xAC00 + (21 * (a - 0x1100) + (b - 0x1161)) * 28))
  else if 0xAC00 ≤ a ∧ a < 0xD7A4 ∧ (a - 0xAC00) % 28 = 0 ∧ 0x11A8 ≤ b ∧ b < 0x11C3 then
    some (Char.ofNat (a + (b - 0x11A7)))
  else none

def composite? (first second : Char) : Option Char :=
  if !mayCombine second then none
  else match syllable? first second with
    | some made => some made
    | none => (compositions.find? fun made => made.2 = (first, second)).map (·.1)

/-! ## The three steps -/

/-- The two characters that a composed one is made of, or the character itself. -/
def parts (c : Char) : List Char :=
  if c.toNat < 0xC0 then [c]
  else match compositions.find? fun made => made.1 = c with
    | some (_, first, second) => [first, second]
    | none => [c]

/-- No character of the table is composed of more than three. -/
def decompose (text : List Char) : List Char := (text.flatMap parts).flatMap parts

/-- Moves a combining character behind those of lesser classes that follow it. -/
def sink (c : Char) : List Char → List Char
  | [] => [c]
  | d :: rest =>
      let lesser := combiningClass d
      if lesser ≠ 0 ∧ lesser < combiningClass c then d :: sink c rest else c :: d :: rest

/-- Combining characters in the order of their classes, those of one class in the given order. -/
def order : List Char → List Char
  | [] => []
  | c :: rest => sink c (order rest)

/--
Composes the character `base` with what follows.  Of what was read after it, `kept` is what could
not be composed, the last first; what follows composes only if its class is greater.
-/
def composeFrom (base : Char) (kept : List Char) : List Char → List Char
  | [] => base :: kept.reverse
  | c :: rest =>
      let reaches := match kept with
        | [] => true
        | last :: _ => combiningClass last < combiningClass c
      match if reaches then composite? base c else none with
      | some made => composeFrom made kept rest
      | none =>
          if combiningClass c = 0 then base :: kept.reverse ++ composeFrom c [] rest
          else composeFrom base (c :: kept) rest

/-- Composes what follows each character that keeps its place. -/
def compose : List Char → List Char
  | [] => []
  | c :: rest => if combiningClass c = 0 then composeFrom c [] rest else c :: compose rest

end Normal

def normalize (text : List Char) : List Char :=
  Normal.compose (Normal.order (Normal.decompose text))

end ObjectStorage.Text
