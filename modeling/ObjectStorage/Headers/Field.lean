import ObjectStorage.Headers.Wire
import ObjectStorage.Time.HttpDate

/-!
# Typed header fields

A field names a header and says how its text is read, and for a field that clients may set, how a
value is written.  A header without text counts as empty, whatever the type of the field.
-/

namespace ObjectStorage

/-- What a header holds for a field. -/
inductive Reading (α : Type) where
  | absent
  | empty
  | value (value : α)
  deriving DecidableEq, Repr

def Reading.exists {α : Type} : Reading α → Bool
  | .value _ => true
  | _ => false

namespace Headers

def text (headers : Headers) (name : String) : Reading String :=
  match headers.get? name with
  | none => .absent
  | some "" => .empty
  | some value => .value value

/-- Sets the header to no text, which asks the server to delete it. -/
def clear (headers : Headers) (name : String) : Headers := headers.set name ""

end Headers

structure Field (α : Type) where
  name : String
  read : String → Except HeaderFault α

namespace Field

variable {α : Type}

def exists? (field : Field α) (headers : Headers) : Bool := (headers.text field.name).exists

def get (field : Field α) (headers : Headers) : Except Error (Reading α) :=
  match headers.text field.name with
  | .absent => .ok .absent
  | .empty => .ok .empty
  | .value text =>
      match field.read text with
      | .ok value => .ok (.value value)
      | .error fault => .error (.badHeader field.name fault)

def validate (field : Field α) (headers : Headers) : Except Error Unit :=
  (field.get headers).map fun _ => ()

end Field

structure SettableField (α : Type) extends Field α where
  write : α → String

namespace SettableField

variable {α : Type}

def set (field : SettableField α) (value : α) (headers : Headers) : Headers :=
  headers.set field.name (field.write value)

def clear (field : SettableField α) (headers : Headers) : Headers := headers.clear field.name

def erase (field : SettableField α) (headers : Headers) : Headers := headers.erase field.name

end SettableField

/-! ## Kinds of fields -/

def readUnsigned (text : String) : Except HeaderFault UInt64 :=
  match Integer.readWord text with
  | .ok value => .ok value
  | .error fault => .error (.notUnsigned text fault)

def readFractionalTime (text : String) : Except HeaderFault Timestamp :=
  match Timestamp.readFractional text with
  | .ok value => .ok value
  | .error fault => .error (.notFractional text fault)

def readHttpDate (text : String) : Except HeaderFault Timestamp :=
  match Time.HttpDate.read? text with
  | some value => .ok value
  | none => .error (.notHttpDate text)

def readUnixTime (text : String) : Except HeaderFault Timestamp :=
  match Timestamp.readUnix text with
  | .ok value => .ok value
  | .error fault => .error (.notUnixTime text fault)

namespace Field

def count (name : String) : Field UInt64 := ⟨name, readUnsigned⟩

def fractionalTime (name : String) : Field Timestamp := ⟨name, readFractionalTime⟩

def httpDate (name : String) : Field Timestamp := ⟨name, readHttpDate⟩

end Field

namespace SettableField

def text (name : String) : SettableField String := ⟨⟨name, .ok⟩, id⟩

def count (name : String) : SettableField UInt64 :=
  ⟨Field.count name, fun value => Integer.writeNat value.toNat⟩

def unixTime (name : String) : SettableField Timestamp :=
  ⟨⟨name, readUnixTime⟩, Timestamp.writeUnix⟩

end SettableField

end ObjectStorage
