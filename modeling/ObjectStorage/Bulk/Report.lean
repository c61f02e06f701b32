import ObjectStorage.Error.Basic
import ObjectStorage.Json.Value
import ObjectStorage.Text.Blank
import ObjectStorage.Text.Percent

/-!
# Reports of bulk operations

The server answers a bulk operation with counts, an overall status and message, and the name and
status of each item that failed.  An operation fails if its overall status is no success or any
item failed.
-/

namespace ObjectStorage.Bulk

structure Report where
  deleted : UInt64
  notFound : UInt64
  created : UInt64
  /-- Empty if the report has no overall status. -/
  status : String
  message : String
  /-- The names of the items that failed, with their statuses. -/
  errors : List (String × String)
  deriving DecidableEq, Repr

namespace Report

open Json in
def ofJson? (json : Json) : Option Report := do
  let count := defaulted? 0 word?
  match ← fields? ["Number Deleted", "Number Not Found", "Number Files Created",
      "Response Status", "Response Body", "Errors"] json with
  | [deleted, notFound, created, status, message, errors] =>
      return ⟨← count deleted, ← count notFound, ← count created, ← defaulted? "" text? status,
        ← defaulted? "" text? message, ← defaulted? [] (list? (pair? text? text?)) errors⟩
  | _ => none

def parse (content : Bytes) : Except Error Report :=
  match (Json.parse? content).bind ofJson? with
  | some report => .ok report
  | none => .error (.badResponse .malformedReport)

/-! ## Statuses and names -/

/-- The status whose code is the first word of the line. -/
def statusOf (line : String) : Except ResponseFault Http.Status :=
  match Integer.readUnsigned 65535 (Text.firstWord line).toList with
  | .error _ => .error (.reportStatus line)
  | .ok code =>
      match Http.Status.ofCode? code with
      | some status => .ok status
      | none => .error (.reportStatus line)

/-- The container and the object that a name denotes; the object is empty if there is none. -/
def placeOf (name : String) : String × String :=
  let decoded := (Percent.decode? name).getD name
  let path := Text.trimStart (· = '/') decoded.toList
  match Text.cut? '/' path with
  | some (container, object) => (String.ofList container, String.ofList object)
  | none => (String.ofList path, "")

def failedItem (entry : String × String) : Except ResponseFault FailedItem := do
  let (container, object) := placeOf entry.1
  return ⟨container, object, ← statusOf entry.2⟩

def overallStatus (report : Report) : Except ResponseFault Http.Status :=
  if report.status = "" then .ok .ok else statusOf report.status

def failure? (report : Report) : Except ResponseFault (Option Failure) := do
  let status ← report.overallStatus
  let items ← report.errors.mapM failedItem
  if status.isSuccess && items.isEmpty then return none
  else return some ⟨status, Text.trimBlanks report.message, items⟩

end Report

/-! ## Outcomes -/

structure Deletion where
  deleted : UInt64
  notFound : UInt64
  failure : Option Failure
  deriving DecidableEq

structure Upload where
  created : UInt64
  failure : Option Failure
  deriving DecidableEq

def Deletion.toExcept (deletion : Deletion) : Except Error (UInt64 × UInt64) :=
  match deletion.failure with
  | some failure => .error (.bulk failure)
  | none => .ok (deletion.deleted, deletion.notFound)

def Upload.toExcept (upload : Upload) : Except Error UInt64 :=
  match upload.failure with
  | some failure => .error (.bulk failure)
  | none => .ok upload.created

end ObjectStorage.Bulk
