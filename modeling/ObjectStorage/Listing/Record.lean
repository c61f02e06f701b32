import ObjectStorage.Handle
import ObjectStorage.Json.Value
import ObjectStorage.Time.Iso8601

/-!
# Records of detailed listings

A detailed listing is a JSON array of records, one for each container of an account or each object
of a container.
-/

namespace ObjectStorage.Listing

inductive Record : Kind → Type where
  | container (name : String) (count bytes : UInt64) : Record .container
  | object (name : String) (bytes : UInt64) (contentType hash lastModified : String) :
      Record .object
  deriving DecidableEq

/-- What a record says besides the name. -/
inductive Details : Kind → Type where
  | container (objectCount bytesUsed : UInt64) : Details .container
  | object (sizeBytes : UInt64) (contentType etag : String) (lastModified : Timestamp) :
      Details .object
  deriving DecidableEq

namespace Record

variable {kind : Kind}

def name : Record kind → String
  | .container name _ _ => name
  | .object name _ _ _ _ => name

/-- The details, given the position of the record in the listing. -/
def details (position : Nat) : Record kind → Except ResponseFault (Details kind)
  | .container _ count bytes => .ok (.container count bytes)
  | .object _ bytes contentType hash lastModified =>
      match Time.Iso8601.read? lastModified with
      | some time => .ok (.object bytes contentType hash time)
      | none => .error (.lastModified lastModified position)

open Json in
def containerOfJson? (json : Json) : Option (Record .container) := do
  match ← fields? ["name", "count", "bytes"] json with
  | [name, count, bytes] =>
      return .container (← required? text? name) (← required? word? count) (← required? word? bytes)
  | _ => none

open Json in
def objectOfJson? (json : Json) : Option (Record .object) := do
  match ← fields? ["name", "bytes", "content_type", "hash", "last_modified"] json with
  | [name, bytes, contentType, hash, lastModified] =>
      return .object (← required? text? name) (← required? word? bytes)
        (← required? text? contentType) (← required? text? hash) (← required? text? lastModified)
  | _ => none

end Record

end ObjectStorage.Listing
