import ObjectStorage.Toml.Document
import ObjectStorage.Toml.Quoted
import ObjectStorage.Toml.Scalar

/-!
# Reading TOML

From the text of a document to its statements.  Values nest, so the readers of arrays and inline
tables take fuel; every nested value takes a character, and as much fuel as characters is enough.
-/

namespace ObjectStorage.Toml

/-! ## Blanks and comments -/

def isBlank (c : Char) : Bool := c = ' ' || c = '\t'

def skipBlanks : Scan Unit := do
  let _ ← Scan.takeWhile isBlank

def lineEnd? : Scan Bool := fun text =>
  match text with
  | '\n' :: rest => some (true, rest)
  | '\r' :: '\n' :: rest => some (true, rest)
  | _ => some (false, text)

/-- Takes a comment if one is ahead; it goes to the end of the line. -/
def comment : Scan Unit := do
  if ← Scan.char? '#' then
    let _ ← Scan.takeWhile fun c => !isControl c

/-- The lines left of blanks, comments and line ends; each takes a character of the fuel. -/
def skipLines : Nat → Scan Unit
  | 0 => return ()
  | fuel + 1 => do
      skipBlanks
      comment
      if ← lineEnd? then skipLines fuel

/-- Blanks, comments and line ends between the parts of a value. -/
def skipSpace : Scan Unit := do
  skipLines ((← Scan.ahead).length + 1)

/-! ## Keys -/

def isBareKeyChar (c : Char) : Bool := c.isAlphanum || c = '_' || c = '-'

def simpleKey : Scan String := fun text =>
  match text with
  | '"' :: _ | '\x27' :: _ =>
      (readLine? text).map fun (key, rest) => (String.ofList key, rest)
  | _ =>
      match text.takeWhile isBareKeyChar with
      | [] => none
      | key => some (String.ofList key, text.dropWhile isBareKeyChar)

def dottedKey : Nat → Scan (List String)
  | 0 => Scan.fails
  | fuel + 1 => do
      skipBlanks
      let key ← simpleKey
      skipBlanks
      if ← Scan.char? '.' then
        let rest ← dottedKey fuel
        return key :: rest
      else return [key]

/-- How deep tables may stand in one another under one key, and arrays in one value. -/
def maxDepth : Nat := 80

def key : Scan (List String) := do
  let path ← dottedKey ((← Scan.ahead).length + 1)
  if maxDepth < path.length then Scan.fails
  return path

/-! ## Scalars -/

def endsScalar (c : Char) : Bool := "=,[]\x7b\x7d#\r\n".toList.contains c

/-- Whether the character begins something else than a scalar that goes on after a blank. -/
def startsAnew (c : Char) : Bool := c = '.' || c = '"' || c = '\x27'

/-- The text of a scalar, and what follows it; blanks belong to it if it goes on after them. -/
def readScalar (afterBlank : Bool) : List Char → List Char × List Char
  | [] => ([], [])
  | c :: rest =>
      if isBlank c then
        match readScalar true rest with
        | ([], _) => ([], c :: rest)
        | (text, after) => (c :: text, after)
      else if endsScalar c || afterBlank && startsAnew c then ([], c :: rest)
      else
        let (text, after) := readScalar false rest
        (c :: text, after)

def scalarText : Scan (List Char) := fun text => some (readScalar false text)

def scalarValue? (text : List Char) : Option Toml :=
  if text = ['t', 'r', 'u', 'e'] then some (.bool true)
  else if text = ['f', 'a', 'l', 's', 'e'] then some (.bool false)
  else match integer? text with
    | some value => some (.integer value)
    | none =>
        match float? text with
        | some tooLarge => some (.float tooLarge)
        | none => if isDateTime text then some .dateTime else none

def scalar : Scan Toml := do
  match scalarValue? (← scalarText) with
  | some value => return value
  | none => Scan.fails

def quoted : Scan Toml := fun text =>
  (readQuoted? text).map fun (content, rest) => (.string (String.ofList content), rest)

/-! ## Values -/

mutual

/-- A value in which `depth` more values may stand in one another. -/
def value : Nat → Nat → Scan Toml
  | 0, _ => Scan.fails
  | fuel + 1, depth => do
      match ← Scan.ahead with
      | '"' :: _ | '\x27' :: _ => quoted
      | '[' :: _ =>
          Scan.char '['
          if depth = 0 then Scan.fails
          let items ← arrayItems fuel (depth - 1)
          return .array items
      | '\x7b' :: _ =>
          Scan.char '\x7b'
          if depth = 0 then Scan.fails
          let entries ← inlineEntries fuel (depth - 1)
          match inlineTable? entries with
          | some made => return made
          | none => Scan.fails
      | _ => scalar

/-- The items up to the closing bracket; a comma may follow the last. -/
def arrayItems : Nat → Nat → Scan (List Toml)
  | 0, _ => Scan.fails
  | fuel + 1, depth => do
      skipSpace
      if ← Scan.char? ']' then return []
      let item ← value fuel depth
      skipSpace
      if ← Scan.char? ',' then
        let rest ← arrayItems fuel depth
        return item :: rest
      Scan.char ']'
      return [item]

/-- The entries up to the closing brace; a comma may follow the last. -/
def inlineEntries : Nat → Nat → Scan (List (List String × Toml))
  | 0, _ => Scan.fails
  | fuel + 1, depth => do
      skipSpace
      if ← Scan.char? '\x7d' then return []
      let key ← key
      skipSpace
      Scan.char '='
      skipSpace
      let held ← value fuel depth
      skipSpace
      if ← Scan.char? ',' then
        let rest ← inlineEntries fuel depth
        return (key, held) :: rest
      Scan.char '\x7d'
      return [(key, held)]

end

/-! ## Statements -/

def header : Scan Statement := do
  Scan.char '['
  if ← Scan.char? '[' then
    let path ← key
    Scan.char ']'
    Scan.char ']'
    return .repeatedHeader path
  else
    let path ← key
    Scan.char ']'
    return .header path

def entry : Scan Statement := do
  let path ← key
  Scan.char '='
  skipBlanks
  let held ← value ((← Scan.ahead).length + 1) maxDepth
  return .entry path held

/-- The statements of the lines; each line takes a character of the fuel. -/
def statements : Nat → Scan (List Statement)
  | 0 => Scan.fails
  | fuel + 1 => do
      skipSpace
      match ← Scan.ahead with
      | [] => return []
      | c :: _ =>
          let statement ← if c = '[' then header else entry
          skipBlanks
          comment
          let ended ← lineEnd?
          match ← Scan.ahead with
          | [] => return [statement]
          | _ =>
              if ended then
                let rest ← statements fuel
                return statement :: rest
              else Scan.fails

/-- A mark of the byte order at the start does not count. -/
def withoutMark (text : List Char) : List Char :=
  match text with
  | '\uFEFF' :: rest => rest
  | _ => text

def parse? (text : String) : Option Table := do
  let text := withoutMark text.toList
  let statements ← (statements (text.length + 1)).run? text
  ofStatements? statements

end ObjectStorage.Toml
