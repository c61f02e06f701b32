import ObjectStorage.Bulk.Failure
import ObjectStorage.Error.Fault

/-!
# Errors

The errors of all operations, their messages, and the status that the server answered where there
is one.
-/

namespace ObjectStorage

structure UnexpectedStatus where
  method : Http.Method
  url : String
  expected : List Http.Status
  actual : Http.Status
  body : String
  deriving DecidableEq

def UnexpectedStatus.message (unexpected : UnexpectedStatus) : String :=
  let codes := unexpected.expected.map fun status => Integer.writeNat status.code
  let tail := if unexpected.body = "" then "" else ": " ++ unexpected.body
  "expected " ++ "/".intercalate codes ++ " response, got " ++
    Integer.writeNat unexpected.actual.code ++ " instead" ++ tail

inductive Error where
  | transport (fault : TransportFault)
  | unexpectedStatus (unexpected : UnexpectedStatus)
  | badHeader (name : String) (fault : HeaderFault)
  | checksumMismatch (expected actual : String)
  | bulk (failure : Bulk.Failure)
  | badResponse (fault : ResponseFault)
  | invalidRequest (fault : RequestFault)
  | auth (fault : AuthFault)
  | config (fault : ConfigFault)
  | io (fault : IoFault)
  | json
  deriving DecidableEq

namespace Error

def message : Error → String
  | .transport fault => "Transport error: " ++ fault.message
  | .unexpectedStatus unexpected => unexpected.message
  | .badHeader name fault => "Bad header " ++ name ++ ": " ++ fault.message
  | .checksumMismatch expected actual =>
      "Etag on uploaded object (" ++ actual ++ ") does not match MD5 checksum of uploaded data (" ++
        expected ++ ")"
  | .bulk failure => failure.text
  | .badResponse fault => "Bad response: " ++ fault.message
  | .invalidRequest fault => "Invalid request: " ++ fault.message
  | .auth fault => "Authentication error: " ++ fault.message
  | .config fault => "Configuration error: " ++ fault.message
  | .io fault => "I/O error: " ++ fault.message
  | .json => "JSON error: *"

/-- The status of the answer that the error reports. -/
def status? : Error → Option Http.Status
  | .unexpectedStatus unexpected => some unexpected.actual
  | .bulk failure => some failure.status
  | _ => none

def isStatus (error : Error) (status : Http.Status) : Bool := error.status? == some status

def isNotFound (error : Error) : Bool := error.isStatus .notFound

end Error

end ObjectStorage
