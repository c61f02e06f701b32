import ObjectStorage.Text.Form
import ObjectStorage.Text.Integer
import ObjectStorage.Url.Segment

/-!
# URLs

A URL in its parts, the text of it, and the two ways in which an address is derived from another:
by changing the last segments of the path and by adding pairs to the query.
-/

namespace ObjectStorage

namespace Url

/-- A path is a list of segments, each after a slash, or a text without structure. -/
inductive Path where
  | segments (list : List String)
  | rootless (text : String)
  deriving DecidableEq, Repr

def Path.text : Path → String
  | .segments list => String.join (list.map fun segment => "/" ++ segment)
  | .rootless text => text

end Url

structure Url where
  scheme : String
  username : String
  password : String
  /-- None if the URL has no authority at all; the host itself may be empty. -/
  host : Option String
  port : Option Nat
  path : Url.Path
  query : Option String
  fragment : Option String
  /--
  Whether a dot stands before the path.  In a URL without authority it keeps a path that begins
  with an empty segment from reading as an authority.
  -/
  guarded : Bool
  deriving DecidableEq, Repr

namespace Url

def userinfoText (url : Url) : String :=
  if url.username = "" ∧ url.password = "" then ""
  else if url.password = "" then url.username ++ "@"
  else url.username ++ ":" ++ url.password ++ "@"

def portText (url : Url) : String :=
  match url.port with
  | some port => ":" ++ Integer.writeNat port
  | none => ""

def authorityText (url : Url) : String :=
  match url.host with
  | some host => "//" ++ url.userinfoText ++ host ++ url.portText
  | none => if url.guarded then "/." else ""

def queryText (url : Url) : String :=
  match url.query with
  | some query => "?" ++ query
  | none => ""

def fragmentText (url : Url) : String :=
  match url.fragment with
  | some fragment => "#" ++ fragment
  | none => ""

def text (url : Url) : String :=
  url.scheme ++ ":" ++ url.authorityText ++ url.path.text ++ url.queryText ++ url.fragmentText

/-! ## Schemes -/

/-- The schemes whose URLs always have a host and a path, with their default ports. -/
def specialPorts : List (String × Nat) :=
  [("http", 80), ("https", 443), ("ws", 80), ("wss", 443), ("ftp", 21)]

def defaultPort? (scheme : String) : Option Nat := specialPorts.lookup scheme

def isSpecial (scheme : String) : Bool := (defaultPort? scheme).isSome || scheme == "file"

/-! ## Segments of the path -/

def pathSegments? (url : Url) : Option (List String) :=
  match url.path with
  | .segments (segment :: rest) => some (segment :: rest)
  | _ => none

/-- Whether the path has no structure, so that nothing can be addressed below the URL. -/
def cannotBeBase (url : Url) : Bool :=
  match url.path with
  | .segments _ => false
  | .rootless _ => true

def withSegments (url : Url) (change : List String → List String) : Url :=
  match url.path with
  | .segments list => { url with path := .segments (change list) }
  | .rootless _ => url

/-- Takes the last segment away, leaving the empty one of the root. -/
def dropSegment (segments : List String) : List String :=
  match segments with
  | [] => []
  | [_] => [""]
  | _ => segments.dropLast

def popSegment (url : Url) : Url := url.withSegments dropSegment

/-- Takes the last segment away if it is empty, so that a slash at the end does not count. -/
def popEmptySegment (url : Url) : Url :=
  url.withSegments fun segments =>
    if segments.getLast? = some "" then dropSegment segments else segments

/-- Puts a segment with the given content at the end of the segments. -/
def appendSegment (scheme : String) (segments : List String) (text : List Char) : List String :=
  let segments := if segments = [""] then [] else segments
  let escapes := if isSpecial scheme then escapedInSpecialSegment else escapedInSegment
  if scheme = "file" then
    FilePath.dropEmpty (FilePath.enter escapes true ⟨segments, false⟩ text).segments
  else enter true segments (escaped escapes text)

/-- Appends a segment with the given content; the contents `.` and `..` are passed over. -/
def pushSegment (url : Url) (text : String) : Url :=
  if text = "." ∨ text = ".." then url
  else url.withSegments fun segments => appendSegment url.scheme segments text.toList

/-! ## Query -/

def withoutQuery (url : Url) : Url := { url with query := none }

/-- Adds form-encoded pairs after what the query holds already. -/
def addPairs (url : Url) (pairs : List (String × String)) : Url :=
  let added := String.ofList (Form.encode pairs)
  match url.query with
  | none | some "" => { url with query := some added }
  | some query => { url with query := some (query ++ "&" ++ added) }

end Url

end ObjectStorage
