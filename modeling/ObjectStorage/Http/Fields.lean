import ObjectStorage.Dictionary
import ObjectStorage.Text.Casing
import ObjectStorage.Text.Utf8

/-!
# Header fields on the wire

The fields of a message: names in lower case, and for each name one value or more, in the order in
which they came.  A value is any bytes that the protocol lets through.
-/

namespace ObjectStorage.Http

/-- The values of one field, of which there is at least one. -/
structure FieldValues where
  first : Bytes
  others : List Bytes
  deriving DecidableEq, Repr

def FieldValues.toList (values : FieldValues) : List Bytes := values.first :: values.others

abbrev Fields := Dictionary FieldValues

/-! ## What may stand in a field -/

def isTokenChar (c : Char) : Bool := c.isAlphanum || "!#$%&'*+-.^_|~\x60".toList.contains c

def maxNameLength : Nat := 65535

/-- The name in lower case, if it is the name of a field. -/
def fieldName? (name : String) : Option String :=
  let characters := name.toList
  if characters.isEmpty || maxNameLength < characters.length || !characters.all isTokenChar then none
  else some (Text.asciiLower name)

def isValueByte (byte : UInt8) : Bool := byte = 9 || (0x20 ≤ byte && byte != 0x7F)

/-- The bytes of a text, if they can be a value. -/
def fieldValue? (text : String) : Option Bytes :=
  let bytes := Utf8.ofText text
  if bytes.all isValueByte then some bytes else none

def isVisible (byte : UInt8) : Bool := byte = 9 || (0x20 ≤ byte && byte < 0x7F)

/-- A value as text, if all of it is visible ASCII, spaces and tabs. -/
def visibleText? (value : Bytes) : Option String :=
  if value.all isVisible then some (String.ofList (value.map fun byte => Char.ofNat byte.toNat))
  else none

namespace Fields

def none : Fields := Dictionary.empty

def first? (fields : Fields) (name : String) : Option Bytes := (fields.get? name).map (·.first)

def replace (fields : Fields) (name : String) (value : Bytes) : Fields :=
  fields.insert name ⟨value, []⟩

def append (fields : Fields) (name : String) (value : Bytes) : Fields :=
  match fields.get? name with
  | some values => fields.insert name ⟨values.first, values.others ++ [value]⟩
  | Option.none => fields.replace name value

/-- The fields with the values in their order, if all the names are names of fields. -/
def ofList? (lines : List (String × Bytes)) : Option Fields :=
  lines.foldlM (fun fields line => (fieldName? line.1).map fun name => fields.append name line.2)
    Fields.none

/-- Each value with its name, in the order of the names. -/
def lines (fields : Fields) : List (String × Bytes) :=
  fields.toList.flatMap fun entry => entry.2.toList.map fun value => (entry.1, value)

end Fields

end ObjectStorage.Http
