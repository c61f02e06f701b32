import ObjectStorage.Error.Basic
import ObjectStorage.Text.Percent
import ObjectStorage.Text.Split

/-!
# Addresses of containers and objects

The names that containers and objects may have, and the path at which they are found below an
account.  The slashes in the name of an object separate segments of the path.
-/

namespace ObjectStorage.Address

def isDotSegment (segment : List Char) : Bool := segment = ['.'] || segment = ['.', '.']

def checkContainer (container : String) : Except RequestFault Unit :=
  if container = "" then .error .emptyContainer
  else if '/' ∈ container.toList then .error (.slashInContainer container)
  else if isDotSegment container.toList then .error (.containerNotAllowed container)
  else .ok ()

def checkObject (object : String) : Except RequestFault Unit :=
  if object = "" then .error .emptyObject
  else if (Text.split '/' object.toList).any isDotSegment then .error (.dotSegment object)
  else .ok ()

/-- Whether the names can stand in an address, the container's first. -/
def check (container : String) (object : Option String) : Except RequestFault Unit := do
  checkContainer container
  match object with
  | some object => checkObject object
  | none => return ()

/-- A name with all but letters, digits and `-_.~` escaped. -/
def encodeSegment (name : List Char) : List Char := Percent.encode Percent.isReserved name

/-- The segments of the path, which begins with the container's. -/
def segments (container : String) (object : Option String) : List (List Char) :=
  encodeSegment container.toList ::
    match object with
    | some object => (Text.split '/' object.toList).map encodeSegment
    | none => []

/-- The path below the account: each segment after a slash. -/
def path (container : String) (object : Option String) : String :=
  String.ofList ((segments container object).flatMap fun segment => '/' :: segment)

end ObjectStorage.Address
