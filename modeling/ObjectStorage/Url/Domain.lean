import ObjectStorage.Text.Normal
import ObjectStorage.Url.Domain.Direction
import ObjectStorage.Url.Domain.Joining
import ObjectStorage.Url.Domain.Mapping
import ObjectStorage.Url.Punycode

/-!
# Domain names

A domain name may hold characters of all scripts.  It is written in ASCII by mapping its characters,
bringing them into normal form, and writing each label that needs more than ASCII as Punycode after
`xn--`.  A label that is given in that way already must stand for one that would be written so.
-/

namespace ObjectStorage.Url.Domain

def isAscii (label : List Char) : Bool := label.all fun c => c.toNat < 0x80

/-- The ASCII characters that would end the host or that no host may hold. -/
def isForbidden (c : Char) : Bool :=
  c.toNat ≤ 0x20 || c.toNat == 0x7F || "%#/:<>?@[\\]^|".toList.contains c

/-! ## Labels -/

structure Label where
  /-- The label in ASCII. -/
  written : List Char
  /-- The characters that it stands for. -/
  meant : List Char
  deriving DecidableEq, Repr

namespace Label

def codePrefix : List Char := ['x', 'n', '-', '-']

/-- How long the letters after the prefix may be. -/
def maxCodeLength : Nat := 2000

/-- How many characters a label may have that are not all of ASCII. -/
def maxLength : Nat := 1000

/-- The characters that the letters after the prefix stand for, if all may be written so. -/
def decode? (code : List Char) : Option (List Char) := do
  if code.isEmpty ∨ code.getLast? = some '-' ∨ maxCodeLength < code.length then none
  let label ← Punycode.decode? code
  if label.all (fun c => isKept c && !isForbidden c && c != '.') ∧ Text.normalize label = label then
    some label
  else none

/-- A label of mapped characters in normal form. -/
def read? (text : List Char) : Option Label :=
  match Text.after? codePrefix text with
  | some code => if isAscii code then (decode? code).map fun meant => ⟨text, meant⟩ else none
  | none => some ⟨if isAscii text then text else codePrefix ++ Punycode.encode text, text⟩

/-- Whether the characters may stand together in a label. -/
def isSound (label : Label) : Bool :=
  isAscii label.meant ||
    !label.meant.head?.any Text.Normal.isMark && joinersFit [] label.meant &&
      label.meant.length ≤ maxLength

end Label

/-! ## Names -/

/-- Whether the labels keep their writing directions, if there is more than one direction. -/
def directed (labels : List Label) : Bool :=
  !labels.any (fun label => label.meant.any isRightToLeft) ||
    labels.all fun label => directionsFit label.meant

/-- The domain name in ASCII; none if a part of it is not allowed. -/
def toAscii? (domain : List Char) : Option (List Char) := do
  let text := Text.normalize (← mapText? domain)
  if text.any isForbidden then none
  let labels ← (Text.split '.' text).mapM Label.read?
  if labels.all Label.isSound && directed labels then
    return Text.join '.' (labels.map Label.written)
  else none

end ObjectStorage.Url.Domain
