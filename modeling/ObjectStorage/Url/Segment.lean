import ObjectStorage.Url.Escape

/-!
# Segments of paths

A path is read one segment after the other.  A segment that is a dot is passed over, and one that
is two dots takes the segment before it away, unless that one is a drive: a letter with a colon or
a bar.  A file's path may begin with a drive, which is then always written with a colon.
-/

namespace ObjectStorage.Url

/-! ## Dots -/

def isSingleDot (segment : String) : Bool :=
  segment = "." || segment = "%2e" || segment = "%2E"

def isDoubleDot (segment : String) : Bool :=
  [ "..", ".%2e", ".%2E", "%2e.", "%2E.", "%2e%2e", "%2e%2E", "%2E%2e", "%2E%2E" ].contains segment

/-! ## Drives -/

def driveLetter? (segment : String) : Option Char :=
  match segment.toList with
  | [letter, mark] => if letter.isAlpha && (mark = ':' || mark = '|') then some letter else none
  | _ => none

def isDrive (segment : String) : Bool := (driveLetter? segment).isSome

def drive (letter : Char) : String := String.ofList [letter, ':']

/--
A drive with a colon that a tab or line end sets off from more text in the segment, and that text.
-/
def cutDrive? (text : List Char) : Option (Char × List Char) :=
  match text.dropWhile isTabOrLineEnd with
  | [] => none
  | letter :: rest =>
      match rest.dropWhile isTabOrLineEnd with
      | ':' :: gap :: rest =>
          if letter.isAlpha && isTabOrLineEnd gap && !(content rest).isEmpty then
            some (letter, rest)
          else none
      | _ => none

/-! ## Paths -/

/-- The segments above the last one; a drive has nothing above it. -/
def ascend (segments : List String) : List String :=
  if segments.getLast?.any isDrive then segments else segments.dropLast

/--
Puts a segment at the end of a path that goes on after it, or, as the last one, ends there.  Either
dot leaves an empty segment if it is the last.
-/
def enter (isLast : Bool) (segments : List String) (segment : String) : List String :=
  if isDoubleDot segment then ascend segments ++ (if isLast then [""] else [])
  else if isSingleDot segment then segments ++ (if isLast then [""] else [])
  else segments ++ [segment]

/-- Enters the segments one after the other, the last one of the list as the last. -/
def enterAll (entered : List String) : List String → List String
  | [] => entered
  | [segment] => enter true entered segment
  | segment :: next :: rest => enterAll (enter false entered segment) (next :: rest)

/-! ## Paths of files -/

structure FilePath where
  segments : List String
  /-- Whether a drive was read as the first segment, which is then not on another host. -/
  onDrive : Bool
  deriving DecidableEq, Repr

namespace FilePath

/--
Puts a segment at the end.  The first one may be a drive, and text that is set off from a drive in
the first segment is a segment of its own, which is kept even if it is a dot or two.
-/
def enter (escapes : UInt8 → Bool) (isLast : Bool) (path : FilePath) (text : List Char) :
    FilePath :=
  let segment := escaped escapes text
  if path.segments ≠ [] then { path with segments := Url.enter isLast path.segments segment }
  else match cutDrive? text with
    | some (letter, rest) => { path with segments := [drive letter, escaped escapes rest] }
    | none =>
        match driveLetter? segment with
        | some letter => ⟨[drive letter], true⟩
        | none => { path with segments := Url.enter isLast [] segment }

def enterAll (escapes : UInt8 → Bool) (path : FilePath) : List (List Char) → FilePath
  | [] => path
  | [text] => enter escapes true path text
  | text :: next :: rest => enterAll escapes (enter escapes false path text) (next :: rest)

/-- Empty segments at the start are left out. -/
def dropEmpty : List String → List String
  | "" :: next :: rest => dropEmpty (next :: rest)
  | segments => segments

end FilePath

end ObjectStorage.Url
