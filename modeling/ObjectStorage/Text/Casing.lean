import ObjectStorage.Text.Casing.Table

/-!
# Letter case

The full case mappings of single characters, without regard to the characters around them: a
character may become several (`ß` becomes `SS`).
-/

namespace ObjectStorage.Text

namespace Casing

def Run.covers (run : Run) (n : Nat) : Bool :=
  run.first ≤ n && n ≤ run.last && (n - run.first) % run.stride == 0

/-- The character that the first run covering `n` maps it to, `n` itself if there is none. -/
def shifted (runs : List Run) (n : Nat) : Nat :=
  match runs.find? fun run => run.covers n with
  | some run => (n + run.shift).toNat
  | none => n

def mapped (runs : List Run) (expansions : List (Nat × List Nat)) (n : Nat) : List Char :=
  match expansions.lookup n with
  | some several => several.map Char.ofNat
  | none => [Char.ofNat (shifted runs n)]

end Casing

open Casing

def isAsciiLower (c : Char) : Bool := 97 ≤ c.toNat && c.toNat ≤ 122

def isAsciiUpper (c : Char) : Bool := 65 ≤ c.toNat && c.toNat ≤ 90

def upperCase (c : Char) : List Char :=
  if c.toNat < 0x80 then [if isAsciiLower c then Char.ofNat (c.toNat - 32) else c]
  else mapped upperRuns upperExpansions c.toNat

def lowerCase (c : Char) : List Char :=
  if c.toNat < 0x80 then [if isAsciiUpper c then Char.ofNat (c.toNat + 32) else c]
  else mapped lowerRuns lowerExpansions c.toNat

/-- Lower-cases the letters of ASCII and keeps all else. -/
def asciiLower (text : String) : String :=
  String.ofList (text.toList.map fun c => if isAsciiUpper c then Char.ofNat (c.toNat + 32) else c)

end ObjectStorage.Text
