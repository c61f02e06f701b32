import ObjectStorage.Bulk.Delete
import ObjectStorage.Bulk.Upload
import ObjectStorage.Client.Basic
import ObjectStorage.Object.Copy
import ObjectStorage.Writer.Upload

/-!
# Calls on a client

Every operation on handles and listings as a value, so that a run of a client is a list of calls.
-/

namespace ObjectStorage

open Client

/-- A call with the names of the handles it is for, by the type of its answer. -/
inductive Call (σ : Type) : Type → Type 1 where
  /-- Holds another account of the cluster under the name `as`. -/
  | switch (on name as : String) : Call σ Account
  | container (on name as : String) : Call σ Unit
  | object (on name as : String) : Call σ Unit
  | accountOf (on as : String) : Call σ Unit
  | containerOf (on as : String) : Call σ Unit
  | containers (on beginning : String) (options : Options) (as : String) : Call σ Unit
  | objects (on beginning : String) (options : Options) (as : String) : Call σ Unit
  | headers (on : String) : Call σ Headers
  | exists? (on : String) : Call σ Bool
  | update (on : String) (headers : Headers) (options : Options) : Call σ Unit
  | invalidate (on : String) : Call σ Unit
  | createAccount (on : String) (options : Options) : Call σ Unit
  | createContainer (on : String) (options : Options) : Call σ Unit
  | ensureExists (on : String) : Call σ Unit
  | deleteContainer (on : String) (options : Options) : Call σ Unit
  | deleteObject (on : String) (options : Options) : Call σ Unit
  | upload (on : String) (body : Body) (options : Options) : Call σ Unit
  | uploadFrom (on : String) (producer : Producer) (options : Options) : Call σ Unit
  | download (on : String) (options : Options) : Call σ Object.Download
  | copy (source target : String) (options : Options) : Call σ Unit
  | move (source target : String) (options deleteOptions : Options) : Call σ Unit
  | capabilities (on : String) : Call σ Capabilities
  /-- Objects and containers to be deleted, each with the name of the account it is taken from. -/
  | bulkDelete (on : String) (objects : List (String × String × String))
      (containers : List (String × String)) (options : Options) : Call σ Bulk.Deletion
  | bulkUpload (on path : String) (format : ArchiveFormat) (archive : Body) (options : Options) :
      Call σ Bulk.Upload
  | request (on : String) (request : Request) : Call σ Http.Response
  | nextPage (on : String) (limit : Option UInt64) : Call σ (List Item)
  | nextPageDetailed (on : String) (limit : Option UInt64) : Call σ (List Item)
  | collect (on : String) (rounds : Nat) : Call σ (Option (List Item))
  | collectDetailed (on : String) (rounds : Nat) : Call σ (Option (List Item))
  | foreach (on : String) (visit : Item → Remote σ Unit) (rounds : Nat) : Call σ Bool
  | foreachDetailed (on : String) (visit : Item → Remote σ Unit) (rounds : Nat) : Call σ Bool

namespace Call

variable {σ α : Type}

def plainContainer (container : Container) : Item := .container container none

def plainObject (object : Object) : Item := .object object none

def detailedContainer (entry : Container × Listing.Details .container) : Item :=
  .container entry.1 (some entry.2)

def detailedObject (entry : Object × Listing.Details .object) : Item :=
  .object entry.1 (some entry.2)

/-- Holds what is made of the client under the name. -/
def making (as : String) (made : Client → Except Error Held) : Remote (Client × σ) Unit := do
  let held ← Remote.ofExcept (made (← get).1)
  modify fun (client, state) => (client.put as held, state)

def copyTo (transport : Transport σ) (source target : String) (options : Options) :
    Remote (Client × σ) Unit := do
  let source ← Remote.ofExcept ((← get).1.object source)
  onHeld .object target (Object.copyFrom transport source options)

def moveTo (transport : Transport σ) (source target : String)
    (options deleteOptions : Options) : Remote (Client × σ) Unit := do
  let (client, _) ← get
  let from? ← Remote.ofExcept (client.object source)
  let to? ← Remote.ofExcept (client.object target)
  onParts (source, from?) (target, to?) (Object.move transport options deleteOptions)

def doomedObjects (client : Client) (objects : List (String × String × String)) :
    Except Error (List Object) :=
  objects.mapM fun (account, within, name) => do
    return ((← client.account account).container within).object name

def doomedContainers (client : Client) (containers : List (String × String)) :
    Except Error (List Container) :=
  containers.mapM fun (account, name) => do
    return (← client.account account).container name

def perform (transport : Transport σ) : Call σ α → Remote (Client × σ) α
  | switch on name as => do
      let account ← Remote.ofExcept ((← get).1.account on)
      let other ← Remote.ofExcept (account.switch name)
      modify fun (client, state) => (client.put as (.account other), state)
      return other
  | container on name as => making as fun client => do
      return .container ((← client.account on).container name)
  | object on name as => making as fun client => do
      return .object ((← client.container on).object name)
  | accountOf on as => making as fun client => do
      return .account (← client.container on).account
  | containerOf on as => making as fun client => do
      return .container (← client.object on).container
  | containers on beginning options as => making as fun client => do
      return .containers (Listing.containers (← client.account on) beginning options)
  | objects on beginning options as => making as fun client => do
      return .objects (Listing.objects (← client.container on) beginning options)
  | headers on => onHandle on (Handle.headers transport)
  | exists? on => onHandle on (Handle.exists? transport)
  | update on changed options => onHandle on (Handle.update transport changed options)
  | invalidate on => onHandle on Handle.invalidate
  | createAccount on options => onHeld .account on (Account.create transport options)
  | createContainer on options => onHeld .container on (Container.create transport options)
  | ensureExists on => onHeld .container on (Container.ensureExists transport)
  | deleteContainer on options => onHeld .container on (Container.delete transport options)
  | deleteObject on options => onHeld .object on (Object.delete transport options)
  | upload on body options => onHeld .object on (Object.upload transport body options)
  | uploadFrom on producer options => onHeld .object on (Object.uploadFrom transport producer options)
  | download on options => onHeld .object on (Object.download transport options)
  | copy source target options => copyTo transport source target options
  | move source target options deleteOptions =>
      moveTo transport source target options deleteOptions
  | capabilities on => withAccount on (Account.capabilities transport)
  | bulkDelete on doomed doomedToo options => do
      let (client, _) ← get
      let objects ← Remote.ofExcept (doomedObjects client doomed)
      let containers ← Remote.ofExcept (doomedContainers client doomedToo)
      withAccount on fun account =>
        Account.bulkDelete transport account objects containers options
  | bulkUpload on path format archive options =>
      withAccount on fun account =>
        Account.bulkUpload transport account path format archive options
  | request on raw => withAccount on fun account =>
      raw.execute transport account.site.endpoint
  | nextPage on limit => onListing on {
      containers := (·.map plainContainer) <$> Listing.nextPage transport limit
      objects := (·.map plainObject) <$> Listing.nextPage transport limit }
  | nextPageDetailed on limit => onListing on {
      containers := (·.map detailedContainer) <$> Listing.nextPageDetailed transport limit
      objects := (·.map detailedObject) <$> Listing.nextPageDetailed transport limit }
  | collect on rounds => onListing on {
      containers := (·.map (·.map plainContainer)) <$> Listing.collect transport rounds
      objects := (·.map (·.map plainObject)) <$> Listing.collect transport rounds }
  | collectDetailed on rounds => onListing on {
      containers := (·.map (·.map detailedContainer)) <$> Listing.collectDetailed transport rounds
      objects := (·.map (·.map detailedObject)) <$> Listing.collectDetailed transport rounds }
  | foreach on visit rounds => onListing on {
      containers := Listing.foreach transport (fun item => visit (plainContainer item)) rounds
      objects := Listing.foreach transport (fun item => visit (plainObject item)) rounds }
  | foreachDetailed on visit rounds => onListing on {
      containers :=
        Listing.foreachDetailed transport (fun item => visit (detailedContainer item)) rounds
      objects :=
        Listing.foreachDetailed transport (fun item => visit (detailedObject item)) rounds }

end Call

end ObjectStorage
