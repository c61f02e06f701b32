import ObjectStorage.Url.Host

/-!
# Reading URLs

The text is cut from the outside in: the fragment, the query, the scheme, the authority, the path.
Blanks around it and tabs and line ends inside it do not count.
-/

namespace ObjectStorage.Url

def isSchemeChar (c : Char) : Bool := c.isAlphanum || c = '+' || c = '-' || c = '.'

def readScheme? (text : List Char) : Option (String × List Char) :=
  match Text.cut? ':' text with
  | some (scheme, rest) =>
      match content scheme with
      | c :: others =>
          if c.isAlpha && others.all isSchemeChar then
            some (Text.asciiLower (String.ofList (c :: others)), rest)
          else none
      | [] => none
  | none => none

/-- What stands before a character, and what stands after it if there is one. -/
def cutAt (separator : Char) (text : List Char) : List Char × Option (List Char) :=
  match Text.cut? separator text with
  | some (before, after) => (before, some after)
  | none => (text, none)

def isSlash (c : Char) : Bool := c = '/' || c = '\\'

/-- Backslashes count as slashes in the paths of special schemes. -/
def normalSlashes (isSpecial : Bool) (text : List Char) : List Char :=
  if isSpecial then text.map fun c => if c = '\\' then '/' else c else text

/-- The segments after the first slash, dots resolved. -/
def segmentsOf (text : List Char) : List String :=
  enterAll [] ((Text.split '/' text).map (escaped escapedInPath))

/-- The path after an authority; the root if there is none and the scheme is special. -/
def pathAfterAuthority (isSpecial : Bool) (text : List Char) : Path :=
  match normalSlashes isSpecial text with
  | [] => .segments (if isSpecial then [""] else [])
  | '/' :: rest => .segments (segmentsOf rest)
  | rest => .segments (segmentsOf rest)

/-! ## Authority -/

structure Authority where
  username : String
  password : String
  host : String
  port : Option Nat
  /-- What stands after the port from a backslash on, which only ends it. -/
  rest : List Char

/-- The host, and the text after a colon outside brackets. -/
def cutPort (inBrackets : Bool) : List Char → List Char × Option (List Char)
  | [] => ([], none)
  | c :: rest =>
      if c = ':' ∧ !inBrackets then ([], some rest)
      else
        let inBrackets := if c = '[' then true else if c = ']' then false else inBrackets
        let (host, port) := cutPort inBrackets rest
        (c :: host, port)

def readPort (scheme : String) (text : List Char) : Except Fault (Option Nat) :=
  match text with
  | [] => .ok none
  | digits =>
      match Integer.readDigits 65535 .tooLarge 0 digits with
      | .error _ => .error .invalidPort
      | .ok port => .ok (if defaultPort? scheme = some port then none else some port)

def readHost (scheme : String) (text : List Char) : Except Fault String :=
  if isSpecial scheme then if text.isEmpty then .error .emptyHost else Host.special text
  else Host.other text

/-- `goesOn` says whether anything follows the authority. -/
def readAuthority (scheme : String) (text : List Char) (goesOn : Bool) :
    Except Fault Authority := do
  let (userinfo, hostAndPort) := match Text.cutLast? '@' text with
    | some (userinfo, rest) => (some userinfo, rest)
    | none => (none, text)
  if userinfo = some [] ∧ hostAndPort.isEmpty ∧ goesOn then throw .emptyHost
  let (username, password) := cutAt ':' (userinfo.getD [])
  let username := escaped escapedInUserinfo username
  let password := escaped escapedInUserinfo (password.getD [])
  let (hostText, portText) := cutPort false hostAndPort
  let host ← readHost scheme hostText
  if host = "" ∧ (portText.isSome ∨ username ≠ "" ∨ password ≠ "") then throw .emptyHost
  let (digits, rest) := (portText.getD []).span fun c => !isSlash c
  let port ← readPort scheme digits
  return ⟨username, password, host, port, rest⟩

def withAuthority (scheme : String) (text : List Char) (goesOn : Bool) : Except Fault Url := do
  let isEnd : Char → Bool := fun c => if isSpecial scheme then isSlash c else c = '/'
  let authority := text.takeWhile fun c => !isEnd c
  let path := text.dropWhile fun c => !isEnd c
  let read ← readAuthority scheme authority (goesOn || !path.isEmpty)
  return {
    scheme, username := read.username, password := read.password, host := some read.host
    port := read.port, path := pathAfterAuthority (isSpecial scheme) (read.rest ++ path)
    query := none, fragment := none, guarded := false }

/-! ## Files -/

def afterSlash? (text : List Char) : Option (List Char) :=
  match text.dropWhile isTabOrLineEnd with
  | c :: rest => if isSlash c then some rest else none
  | [] => none

/-- The URL of a file from the text of its path after the first slash. -/
def fileAt (host : String) (text : List Char) : Url :=
  let path := FilePath.enterAll escapedInPath ⟨[], false⟩
    (Text.split '/' (normalSlashes true text))
  { scheme := "file", username := "", password := ""
    host := some (if path.onDrive then "" else host), port := none
    path := .segments (FilePath.dropEmpty path.segments)
    query := none, fragment := none, guarded := false }

/-- After two slashes, a host stands before the path, unless a drive stands there. -/
def fileOnHost (text : List Char) : Except Fault Url := do
  let (hostText, path) := text.span fun c => !isSlash c
  let hostText := content hostText
  if isDrive (String.ofList hostText) then return fileAt "" text
  let path := path.drop 1
  if hostText.isEmpty then return fileAt "" path
  let host ← Host.special hostText
  return fileAt (if host = "localhost" then "" else host) path

def fileUrl (text : List Char) : Except Fault Url :=
  match afterSlash? text with
  | none => .ok (fileAt "" text)
  | some rest =>
      match afterSlash? rest with
      | none => .ok (fileAt "" rest)
      | some rest => fileOnHost rest

/-! ## Whole URLs -/

/-- Whether a path would read as an authority where none is meant. -/
def looksLikeAuthority : Path → Bool
  | .segments ("" :: _ :: _) => true
  | _ => false

def withoutAuthority (scheme : String) (path : Path) : Url :=
  { scheme, username := "", password := "", host := none, port := none, path
    query := none, fragment := none, guarded := looksLikeAuthority path }

def readMain (scheme : String) (text : List Char) (goesOn : Bool) : Except Fault Url :=
  if scheme = "file" then fileUrl text
  else
    let text := content text
    if isSpecial scheme then withAuthority scheme (text.dropWhile isSlash) goesOn
    else match text with
      | '/' :: '/' :: rest => withAuthority scheme rest goesOn
      | '/' :: rest => .ok (withoutAuthority scheme (.segments (segmentsOf rest)))
      | rest => .ok (withoutAuthority scheme (.rootless (escaped isControl rest)))

def isOutside (c : Char) : Bool := c.toNat ≤ 0x20

def parse (text : String) : Except Fault Url :=
  match readScheme? (Text.trim isOutside text.toList) with
  | none => .error .relativeWithoutBase
  | some (scheme, rest) => do
      let (rest, fragment) := cutAt '#' rest
      let (main, query) := cutAt '?' rest
      let url ← readMain scheme main (query.isSome || fragment.isSome)
      let escapes := if isSpecial scheme then escapedInSpecialQuery else escapedInQuery
      return { url with
        query := query.map (escaped escapes)
        fragment := fragment.map (escaped escapedInFragment) }

end ObjectStorage.Url
