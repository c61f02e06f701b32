import ObjectStorage.Error.Basic
import ObjectStorage.Headers.Basic
import ObjectStorage.Http.Fields

/-!
# Headers as fields of a message

Of a field with several values the headers keep the first, and bytes that are not text are replaced.
On the way out a name that is no field name or a value with control characters is refused.
-/

namespace ObjectStorage.Headers

/-- Reads the first value of each field. -/
def ofFields (fields : Http.Fields) : Headers :=
  ofList (fields.toList.map fun entry => (entry.1, Utf8.decodeLossy entry.2.first))

def addField (fields : Http.Fields) (entry : String × String) : Except Error Http.Fields :=
  match Http.fieldName? entry.1 with
  | none => .error (.badHeader entry.1 .invalidName)
  | some name =>
      match Http.fieldValue? entry.2 with
      | none => .error (.badHeader entry.1 .invalidValue)
      | some value => .ok (fields.replace name value)

/-- The entries in the order of their names; the first that cannot be sent is the error. -/
def toFields (headers : Headers) : Except Error Http.Fields :=
  headers.toList.foldlM addField Http.Fields.none

end ObjectStorage.Headers
