import ObjectStorage.Text.Split
import ObjectStorage.Text.Utf8

/-!
# Request targets

What a request can be sent to: an absolute URI without its fragment, or an authority alone.  The
reader is stricter than that of URLs about the length and about where an authority must stand.
-/

namespace ObjectStorage.Http

structure Uri where
  /-- With the authority; a URI without a scheme is only an authority. -/
  scheme : Option String
  authority : String
  path : String
  query : Option String
  deriving DecidableEq, Repr

namespace Uri

inductive Fault where
  | tooLong
  | empty
  | invalidFormat
  | invalidCharacter
  | invalidAuthority
  | schemeTooLong
  deriving DecidableEq, Repr

def Fault.message : Fault → String
  | .tooLong => "uri too long"
  | .empty => "empty string"
  | .invalidFormat => "invalid format"
  | .invalidCharacter => "invalid uri character"
  | .invalidAuthority => "invalid authority"
  | .schemeTooLong => "scheme too long"

def text (uri : Uri) : String :=
  let scheme := match uri.scheme with
    | some scheme => scheme ++ "://"
    | none => ""
  let query := match uri.query with
    | some query => "?" ++ query
    | none => ""
  scheme ++ uri.authority ++ uri.path ++ query

/-! ## Scheme -/

def isSchemeChar (c : Char) : Bool := c.isAlphanum || c = '+' || c = '-' || c = '.'

/-- The scheme and what stands after it and `://`, if the text begins with those. -/
def readScheme (text : List Char) : Except Fault (Option String × List Char) :=
  let scheme := text.takeWhile isSchemeChar
  match text.dropWhile isSchemeChar with
  | ':' :: '/' :: '/' :: rest =>
      if scheme.length ≤ 64 then .ok (some (String.ofList scheme), rest)
      else .error .schemeTooLong
  | _ => .ok (none, text)

/-! ## Authority -/

def isAuthorityChar (c : Char) : Bool :=
  c.isAlphanum || "!$&'()*+,-.:;=@[]_~".toList.contains c

/-- What has been seen of an authority. -/
structure Seen where
  colons : Nat
  opened : Bool
  closed : Bool
  percent : Bool
  /-- Whether the last character was an at sign. -/
  atSign : Bool

def Seen.none : Seen := ⟨0, false, false, false, false⟩

/-- Takes one character; an at sign or a closing bracket make what came before harmless. -/
def Seen.add (seen : Seen) (c : Char) : Except Fault Seen :=
  let seen := { seen with atSign := c = '@' }
  if c = '%' then .ok { seen with percent := true }
  else if !isAuthorityChar c then .error .invalidCharacter
  else if c = ':' then
    if 8 ≤ seen.colons then .error .invalidAuthority
    else .ok { seen with colons := seen.colons + 1 }
  else if c = '[' then
    if seen.percent || seen.opened then .error .invalidAuthority
    else .ok { seen with opened := true }
  else if c = ']' then
    if !seen.opened || seen.closed then .error .invalidAuthority
    else .ok { seen with closed := true, colons := 0, percent := false }
  else if c = '@' then .ok { seen with colons := 0, percent := false }
  else .ok seen

def checkAuthority (authority : List Char) : Except Fault Unit := do
  let seen ← authority.foldlM Seen.add Seen.none
  if seen.opened != seen.closed || 1 < seen.colons || seen.atSign || seen.percent then
    throw .invalidAuthority

/-! ## Path and query -/

def isPathChar (c : Char) : Bool :=
  let n := c.toNat
  n == 0x21 || n == 0x22 || (0x24 ≤ n && n ≤ 0x3B) || n == 0x3D || (0x40 ≤ n && n ≤ 0x5F) ||
    (0x61 ≤ n && n ≤ 0x7E) || 0x7F ≤ n

def isQueryChar (c : Char) : Bool :=
  let n := c.toNat
  n == 0x21 || (0x24 ≤ n && n ≤ 0x3B) || n == 0x3D || (0x3F ≤ n && n ≤ 0x7E) || 0x7F ≤ n

/-- The path and the query; the fragment is left out. -/
def readPathAndQuery (text : List Char) : Except Fault (String × Option String) :=
  let text := text.takeWhile (· != '#')
  let (path, query) := match Text.cut? '?' text with
    | some (path, query) => (path, some query)
    | none => (text, none)
  if path.all isPathChar && (query.getD []).all isQueryChar then
    .ok (if path.isEmpty then "/" else String.ofList path, query.map String.ofList)
  else .error .invalidCharacter

/-! ## Whole targets -/

def isAuthorityEnd (c : Char) : Bool := c = '/' || c = '?' || c = '#'

/-- The length in bytes that a target must not exceed. -/
def maxLength : Nat := 65534

def parse (text : String) : Except Fault Uri := do
  let characters := text.toList
  if maxLength < (Utf8.ofText text).length then throw .tooLong
  if characters.isEmpty then throw .empty
  let (scheme, rest) ← readScheme characters
  let authority := rest.takeWhile fun c => !isAuthorityEnd c
  let after := rest.dropWhile fun c => !isAuthorityEnd c
  checkAuthority authority
  match scheme with
  | none =>
      if after.isEmpty then return ⟨none, String.ofList authority, "", none⟩
      else throw .invalidFormat
  | some scheme =>
      if authority.isEmpty then throw .invalidFormat
      let (path, query) ← readPathAndQuery after
      return ⟨some scheme, String.ofList authority, path, query⟩

end Uri

end ObjectStorage.Http
