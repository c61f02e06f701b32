import ObjectStorage.Account
import ObjectStorage.Container
import ObjectStorage.Listing.Loop
import ObjectStorage.Object.Basic

/-!
# Clients

A client holds handles and listings under names.  An operation changes what it holds under the name
of the receiver, and nothing else.
-/

namespace ObjectStorage

inductive Held where
  | account (account : Account)
  | container (container : Container)
  | object (object : Object)
  | containers (listing : Listing .container)
  | objects (listing : Listing .object)

/-- A sort of what is held: how it is held, and what of that sort something held is. -/
structure Slot (τ : Type) where
  hold : τ → Held
  held? : Held → Option τ
  held?_eq_some_iff : ∀ {held part}, held? held = some part ↔ held = hold part

namespace Slot

def account : Slot Account where
  hold := .account
  held?
    | .account account => some account
    | _ => none
  held?_eq_some_iff {held _} := by cases held <;> simp

def container : Slot Container where
  hold := .container
  held?
    | .container container => some container
    | _ => none
  held?_eq_some_iff {held _} := by cases held <;> simp

def object : Slot Object where
  hold := .object
  held?
    | .object object => some object
    | _ => none
  held?_eq_some_iff {held _} := by cases held <;> simp

end Slot

structure Client where
  held : Dictionary Held

namespace Client

variable {σ α τ : Type}

def empty : Client := ⟨Dictionary.empty⟩

def get? (client : Client) (name : String) : Option Held := client.held.get? name

/-- Holds something under the name, in the place of what was held there. -/
def put (client : Client) (name : String) (held : Held) : Client :=
  ⟨client.held.insert name held⟩

/-! ## What is held under a name -/

/-- What of the slot is held under the name. -/
def find (client : Client) (slot : Slot τ) (name : String) : Except Error τ :=
  match (client.get? name).bind slot.held? with
  | some part => .ok part
  | none => .error (.invalidRequest (.noHandle name))

def account (client : Client) (name : String) : Except Error Account := client.find .account name

def container (client : Client) (name : String) : Except Error Container :=
  client.find .container name

def object (client : Client) (name : String) : Except Error Object := client.find .object name

/-! ## Operations on what is held -/

/-- Runs an operation on a part of the client, and puts what becomes of the part under the name. -/
def onPart (name : String) (hold : τ → Held) (part : τ)
    (operation : Remote (τ × σ) α) : Remote (Client × σ) α := fun (client, state) =>
  match operation (part, state) with
  | .ok value (part, state) => .ok value (client.put name (hold part), state)
  | .error error (part, state) => .error error (client.put name (hold part), state)

/-- Runs an operation on two objects, and puts back what becomes of each under its name. -/
def onParts (first second : String × Object)
    (operation : Remote (Object × Object × σ) α) : Remote (Client × σ) α := fun (client, state) =>
  let put := fun (one two : Object) =>
    (client.put second.1 (.object two)).put first.1 (.object one)
  match operation (first.2, second.2, state) with
  | .ok value (one, two, state) => .ok value (put one two, state)
  | .error error (one, two, state) => .error error (put one two, state)

def noHandle (name : String) : Remote (Client × σ) α :=
  throw (.invalidRequest (.noHandle name))

/-- An operation on the handle under the name, whatever its kind. -/
def onHandle (name : String) (operation : {kind : Kind} → Remote (Handle kind × σ) α) :
    Remote (Client × σ) α := do
  match (← get).1.get? name with
  | some (.account account) => onPart name .account account operation
  | some (.container container) => onPart name .container container operation
  | some (.object object) => onPart name .object object operation
  | _ => noHandle name

/-- An operation on what is held under the name, if it is of the slot. -/
def onHeld (slot : Slot τ) (name : String) (operation : Remote (τ × σ) α) :
    Remote (Client × σ) α := do
  match ((← get).1.get? name).bind slot.held? with
  | some part => onPart name slot.hold part operation
  | none => noHandle name

def withAccount (name : String) (operation : Account → Remote σ α) : Remote (Client × σ) α := do
  let account ← Remote.ofExcept ((← get).1.account name)
  Remote.onSecond (operation account)

/-! ## Listings -/

/-- What a listing delivers: a handle, and details if they were asked for. -/
inductive Item where
  | container (container : Container) (details : Option (Listing.Details .container))
  | object (object : Object) (details : Option (Listing.Details .object))

def Item.name : Item → String
  | .container handle _ => handle.name
  | .object handle _ => handle.name

/-- Operations on listings of containers and on those of objects. -/
structure ListingOperation (σ α : Type) where
  containers : Remote (Listing .container × σ) α
  objects : Remote (Listing .object × σ) α

def onListing (name : String) (operation : ListingOperation σ α) : Remote (Client × σ) α := do
  match (← get).1.get? name with
  | some (.containers listing) => onPart name .containers listing operation.containers
  | some (.objects listing) => onPart name .objects listing operation.objects
  | _ => noHandle name

end Client

end ObjectStorage
