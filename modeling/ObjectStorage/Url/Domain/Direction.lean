import ObjectStorage.Text.CharMap
import ObjectStorage.Url.Domain.Direction.Table

/-!
# Writing directions in domain names

A label that mixes writing directions could look like another one.  In a domain name with
characters that are written from right to left, each label has the direction of its first letter
and keeps to it.
-/

namespace ObjectStorage.Url.Domain

inductive Direction where
  | leftToRight
  | rightToLeft
  | arabicNumber
  | europeanNumber
  /-- Takes the direction of the character it stands on. -/
  | mark
  | neutral
  deriving DecidableEq, Repr

def Direction.read (text : List Char) : Direction :=
  match text with
  | ['l'] => .leftToRight
  | ['r'] => .rightToLeft
  | ['a'] => .arabicNumber
  | ['e'] => .europeanNumber
  | ['m'] => .mark
  | _ => .neutral

def directions : Text.CharMap Direction := .read Direction.read directionChanges

def direction (c : Char) : Direction :=
  if c.toNat < 0x80 then
    if c.isAlpha then .leftToRight else if c.isDigit then .europeanNumber else .neutral
  else directions.get .leftToRight c

def isRightToLeft (c : Char) : Bool :=
  match direction c with
  | .rightToLeft | .arabicNumber => true
  | _ => false

/-- The directions after the first character, without the marks at the end. -/
def body (rest : List Char) : List Direction :=
  ((rest.map direction).reverse.dropWhile (· = .mark)).reverse

/-- Whether the label keeps to the direction of its first letter. -/
def directionsFit : List Char → Bool
  | [] => true
  | first :: rest =>
      let body := body rest
      match direction first with
      | .leftToRight =>
          body.all (fun kind => kind != .rightToLeft && kind != .arabicNumber) &&
            body.getLast?.all fun kind => kind == .leftToRight || kind == .europeanNumber
      | .rightToLeft =>
          body.all (· != .leftToRight) && (body.getLast?.all (· != .neutral)) &&
            !(body.contains .europeanNumber && body.contains .arabicNumber)
      | _ => false

end ObjectStorage.Url.Domain
