import ObjectStorage.Text.Integer
import ObjectStorage.Text.Percent
import ObjectStorage.Toml.Quoted

/-!
# Writing TOML

Keys with strings and integers.  A string is written in the first of five forms that can hold it:
between quotes or apostrophes, one of them or three, and at last between quotes with escapes.
-/

namespace ObjectStorage.Toml

/-! ## Strings -/

def longestRun (c : Char) : List Char → Nat → Nat
  | [], current => current
  | d :: rest, current =>
      if d = c then longestRun c rest (current + 1) else max current (longestRun c rest 0)

/-- What a string holds that decides on its form. -/
structure Contents where
  /-- A control character that is neither tab nor line feed. -/
  control : Bool
  lineFeed : Bool
  backslash : Bool
  quotes : Nat
  apostrophes : Nat

def contentsOf (text : List Char) : Contents where
  control := text.any fun c => isControl c && c != '\n'
  lineFeed := text.contains '\n'
  backslash := text.contains '\\'
  quotes := longestRun '"' text 0
  apostrophes := longestRun '\x27' text 0

inductive Form where
  | basic
  | literal
  | longBasic
  | longLiteral
  deriving DecidableEq, Repr

def formOf (contents : Contents) : Form :=
  let plain := !contents.control
  let line := plain && !contents.lineFeed
  if line && !contents.backslash && contents.quotes = 0 then .basic
  else if line && contents.apostrophes = 0 then .literal
  else if plain && !contents.backslash && contents.quotes ≤ 2 then .longBasic
  else if plain && contents.apostrophes ≤ 2 then .longLiteral
  else if contents.lineFeed then .longBasic
  else .basic

/-- Four upper-case hexadecimal digits of a control character. -/
def controlDigits (n : Nat) : List Char :=
  ['0', '0', Percent.upperDigit (n / 16), Percent.upperDigit (n % 16)]

def escapeChar (multiline : Bool) (c : Char) : List Char :=
  if c = '\x08' then ['\\', 'b']
  else if c = '\t' then ['\\', 't']
  else if c = '\n' then (if multiline then ['\n'] else ['\\', 'n'])
  else if c = '\x0c' then ['\\', 'f']
  else if c = '\r' then ['\\', 'r']
  else if c = '\\' then ['\\', '\\']
  else if isControl c then ['\\', 'u'] ++ controlDigits c.toNat
  else [c]

/--
The text with escapes for what may not stand between quotes.  Between three of them two quotes may
stand in a row; `row` counts those just written.
-/
def escapeText (multiline : Bool) (row : Nat) : List Char → List Char
  | [] => []
  | c :: rest =>
      if c = '"' then
        if multiline && row < 2 then '"' :: escapeText multiline (row + 1) rest
        else '\\' :: '"' :: escapeText multiline 0 rest
      else escapeChar multiline c ++ escapeText multiline 0 rest

/-- A line end after the opening, which is not content, if the content has line ends. -/
def opening (lineFeed : Bool) : List Char := if lineFeed then ['\n'] else []

def writeString (text : List Char) : List Char :=
  let contents := contentsOf text
  let three := fun c : Char => [c, c, c]
  match formOf contents with
  | .basic => '"' :: escapeText false 0 text ++ ['"']
  | .literal => '\x27' :: text ++ ['\x27']
  | .longBasic =>
      three '"' ++ opening contents.lineFeed ++ escapeText true 0 text ++ three '"'
  | .longLiteral => three '\x27' ++ opening contents.lineFeed ++ text ++ three '\x27'

/-! ## Entries -/

inductive Scalar where
  | string (text : String)
  | integer (value : UInt64)
  deriving DecidableEq, Repr

def Scalar.text : Scalar → List Char
  | .string text => writeString text.toList
  | .integer value => Nat.toDigits 10 value.toNat

def entryLine (key : String) (value : Scalar) : List Char :=
  key.toList ++ [' ', '=', ' '] ++ value.text ++ ['\n']

def entryLines (entries : List (String × Scalar)) : List Char :=
  entries.flatMap fun entry => entryLine entry.1 entry.2

/-- Entries, and after them a table with a header, set off by an empty line. -/
def document (entries : List (String × Scalar)) (header : String)
    (table : List (String × Scalar)) : List Char :=
  entryLines entries ++ (if entries.isEmpty then [] else ['\n']) ++
    '[' :: header.toList ++ [']', '\n'] ++ entryLines table

end ObjectStorage.Toml
