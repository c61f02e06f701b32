import ObjectStorage.Headers.Fields
import ObjectStorage.Text.Split

/-!
# Metadata

Headers whose names begin in a way that the kind of the resource fixes hold metadata of the user;
the rest of the name is the key.
-/

namespace ObjectStorage.Headers

def metadataName (kind : Kind) (key : String) : String := kind.metadataStart ++ key

def metadata (headers : Headers) (kind : Kind) (key : String) : Reading String :=
  headers.text (metadataName kind key)

def setMetadata (headers : Headers) (kind : Kind) (key value : String) : Headers :=
  headers.set (metadataName kind key) value

def clearMetadata (headers : Headers) (kind : Kind) (key : String) : Headers :=
  headers.clear (metadataName kind key)

def eraseMetadata (headers : Headers) (kind : Kind) (key : String) : Headers :=
  headers.erase (metadataName kind key)

def metadataKey? (kind : Kind) (name : String) : Option String :=
  match Text.after? (canonicalName kind.metadataStart).toList name.toList with
  | none | some [] => none
  | some key => some (String.ofList key)

/-- The keys and values of all metadata, in the order of the names. -/
def metadataList (headers : Headers) (kind : Kind) : List (String × String) :=
  headers.toList.filterMap fun entry =>
    (metadataKey? kind entry.1).map fun key => (key, entry.2)

end ObjectStorage.Headers
