import ObjectStorage.Bulk.Report
import ObjectStorage.Container
import ObjectStorage.Object.Basic

/-!
# Bulk deletion

Objects and then containers are deleted in batches, one request for each.  The first batch that
reports a failure is the last one sent, and the counts of all batches are added up.
-/

namespace ObjectStorage.Account

open Bulk

variable {σ : Type}

/-! ## Paths -/

/-- What is to be deleted, with the account that it was taken from. -/
structure Doomed where
  account : String
  container : String
  object : Option String
  deriving DecidableEq

def Doomed.ofObject (object : Object) : Doomed :=
  ⟨object.site.account, object.containerName, some object.name⟩

def Doomed.ofContainer (container : Container) : Doomed :=
  ⟨container.site.account, container.name, none⟩

def Doomed.text (doomed : Doomed) : String :=
  match doomed.object with
  | some object => doomed.container ++ "/" ++ object
  | none => doomed.container

def Doomed.path (doomed : Doomed) : Except RequestFault String := do
  Address.check doomed.container doomed.object
  return Address.path doomed.container doomed.object

/-- The paths of all that is to be deleted, if it is of the account and has proper names. -/
def paths (account : String) (all : List Doomed) : Except RequestFault (List String) :=
  match all.find? fun doomed => doomed.account ≠ account with
  | some doomed => .error (.foreign doomed.text doomed.account account)
  | none => all.mapM Doomed.path

/-! ## Batches -/

/-- Cuts a list into pieces of the size, the last of which may be shorter; 0 counts as 1. -/
def batches {α : Type} (size : Nat) : List α → List (List α)
  | [] => []
  | first :: rest =>
      (first :: rest.take (size - 1)) :: batches size (rest.drop (size - 1))
  termination_by list => list.length
  decreasing_by
    simp only [List.length_drop, List.length_cons]
    omega

def deleteOptions (options : Options) : Options :=
  ((options.withValue "bulk-delete" "true").withHeader "Content-Type" "text/plain").withHeader
    "Accept" "application/json"

def deleteContent (batch : List String) : Bytes :=
  Utf8.ofText (String.join (batch.map (· ++ "\n")))

def deleteRequest (options : Options) (batch : List String) : Request :=
  ⟨.post, none, none, deleteOptions options, .bytes (deleteContent batch), [.ok], false⟩

def deleteBatch (transport : Transport σ) (site : Site) (options : Options)
    (batch : List String) : Remote σ Deletion := do
  let response ← (deleteRequest options batch).execute transport site.endpoint
  let content ← Remote.ofExcept response.body.read
  let report ← Remote.ofExcept (Report.parse content)
  let failure ← Remote.ofExcept (report.failure?.mapError .badResponse)
  return ⟨report.deleted, report.notFound, failure⟩

/-- Sends the batches up to the first that fails, adding to what was deleted so far. -/
def deleteBatches (transport : Transport σ) (site : Site) (options : Options)
    (sofar : Deletion) : List (List String) → Remote σ Deletion
  | [] => return sofar
  | batch :: rest => do
      let deletion ← deleteBatch transport site options batch
      let total : Deletion :=
        ⟨sofar.deleted + deletion.deleted, sofar.notFound + deletion.notFound, deletion.failure⟩
      if total.failure.isSome then return total
      else deleteBatches transport site options total rest

def bulkDelete (transport : Transport σ) (account : Account) (objects : List Object)
    (containers : List Container) (options : Options) : Remote σ Deletion := do
  let all := objects.map Doomed.ofObject ++ containers.map Doomed.ofContainer
  let paths ← Remote.ofExcept ((paths account.site.account all).mapError .invalidRequest)
  deleteBatches transport account.site options ⟨0, 0, none⟩
    (batches account.site.settings.bulkDeleteBatchSize.toNat paths)

end ObjectStorage.Account
