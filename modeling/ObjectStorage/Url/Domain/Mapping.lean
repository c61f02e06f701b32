import ObjectStorage.Text.CharMap
import ObjectStorage.Url.Domain.Mapping.Table

/-!
# Characters of domain names

A domain name is read without regard to letter case and to forms of characters that look alike:
each character is kept, left out, or stands for others, and the rest are refused.
-/

namespace ObjectStorage.Url.Domain

inductive Treatment where
  | kept
  | ignored
  | refused
  /-- Stands for the character at a distance. -/
  | shifted (distance : Int)
  /-- Every other character, from the first on, stands for the one after it. -/
  | alternating
  /-- Each character stands for the text at its place in the list. -/
  | listed (texts : Array (List Char))

def texts (list : List Char) : Array (List Char) :=
  ((Text.split ',' list).map fun text =>
    (Text.split '.' text).filterMap Text.CharMap.hexChar?).toArray

def Treatment.read (text : List Char) : Treatment :=
  match text with
  | ['v'] => .kept
  | ['i'] => .ignored
  | ['x'] => .refused
  | ['a'] => .alternating
  | '+' :: digits => .shifted ((Text.CharMap.hexNumber? digits).getD 0)
  | '-' :: digits => .shifted (-((Text.CharMap.hexNumber? digits).getD 0 : Nat))
  | list => .listed (texts list)

def mapping : Text.CharMap Treatment := .read Treatment.read mappingChanges

/-- What the treatment from a code point on makes of the character so many places after it. -/
def Treatment.apply? (treatment : Treatment) (c : Char) (place : Nat) : Option (List Char) :=
  match treatment with
  | .kept => some [c]
  | .ignored => some []
  | .refused => none
  | .shifted distance => some [Char.ofNat (c.toNat + distance).toNat]
  | .alternating => some [if place % 2 = 0 then Char.ofNat (c.toNat + 1) else c]
  | .listed texts => texts[place]?

/-- What the character stands for; none if it is refused. -/
def mapChar? (c : Char) : Option (List Char) :=
  if c.toNat < 0x80 then some [if c.isUpper then c.toLower else c]
  else do
    let (start, treatment) ← mapping.find? c
    treatment.apply? c (c.toNat - start)

def mapText? (text : List Char) : Option (List Char) := (text.mapM mapChar?).map List.flatten

def isKept (c : Char) : Bool := mapChar? c == some [c]

end ObjectStorage.Url.Domain
