import ObjectStorage.Text.Normal
import ObjectStorage.Url.Domain.Joining.Table

/-!
# Joiners in domain names

Two characters without width decide whether the letters beside them join.  A label may hold them
only where they make a difference: after a sign that takes the vowel off a letter, and, for the
one that keeps letters apart, between letters that would join.
-/

namespace ObjectStorage.Url.Domain

inductive Joining where
  | none
  /-- With the letter after it. -/
  | next
  /-- With the letter before it. -/
  | previous
  | both
  /-- Letters join across the character. -/
  | transparent
  deriving DecidableEq, Repr

def Joining.read (text : List Char) : Joining :=
  match text with
  | ['l'] => .next
  | ['r'] => .previous
  | ['d'] => .both
  | ['t'] => .transparent
  | _ => .none

def joinings : Text.CharMap Joining := .read Joining.read joiningChanges

def joining (c : Char) : Joining := joinings.get .none c

/-- Whether the first character of the text that is not joined across is of one of the kinds. -/
def joins (kinds : List Joining) : List Char → Bool
  | [] => false
  | c :: rest =>
      match joining c with
      | .transparent => joins kinds rest
      | kind => kinds.contains kind

/-- The class of the signs that take the vowel off a letter. -/
def vowelKiller : Nat := 9

def isJoiner (c : Char) : Bool := c = '\u200D'

def isNonJoiner (c : Char) : Bool := c = '\u200C'

/-- Whether a joiner may stand between two texts, of which the first is given backwards. -/
def joinerFits (c : Char) (before after : List Char) : Bool :=
  match before with
  | [] => false
  | previous :: _ =>
      Text.Normal.combiningClass previous == vowelKiller ||
        isNonJoiner c && joins [.next, .both] before && joins [.previous, .both] after

/-- Whether all joiners fit in a text that stands after what is given backwards. -/
def joinersFit (before : List Char) : List Char → Bool
  | [] => true
  | c :: rest =>
      (!(isJoiner c || isNonJoiner c) || joinerFits c before rest) && joinersFit (c :: before) rest

end ObjectStorage.Url.Domain
