import ObjectStorage.Headers.Fields
import ObjectStorage.Request
import ObjectStorage.Site

/-!
# Handles

A handle denotes an account, a container or an object, and keeps the headers that the server last
gave for it.  Fetching them again is up to whoever invalidates the handle; every change that goes
through it does.
-/

namespace ObjectStorage

inductive Place : Kind → Type where
  | account : Place .account
  | container (name : String) : Place .container
  | object (container name : String) : Place .object
  deriving DecidableEq

namespace Place

variable {kind : Kind}

def container? : Place kind → Option String
  | .account => none
  | .container name => some name
  | .object within _ => some within

def object? : Place kind → Option String
  | .object _ name => some name
  | _ => none

end Place

structure Handle (kind : Kind) where
  site : Site
  place : Place kind
  cached : Option Headers
  deriving DecidableEq

abbrev Account := Handle .account

abbrev Container := Handle .container

abbrev Object := Handle .object

namespace Handle

variable {kind : Kind} {σ : Type}

def fresh (site : Site) (place : Place kind) : Handle kind := ⟨site, place, none⟩

def invalidated (handle : Handle kind) : Handle kind := { handle with cached := none }

/-! ## Requests -/

/-- A request on what the handle denotes, whose answer is drained. -/
def request (handle : Handle kind) (method : Http.Method) (options : Options)
    (expected : List Http.Status) : Request :=
  { Request.plain method options expected with
    container := handle.place.container?
    object := handle.place.object? }

def url (handle : Handle kind) : Except Error Url :=
  (handle.request .head .none []).url handle.site.endpoint

def fetch (handle : Handle kind) : Request :=
  match kind with
  | .account => handle.request .get (Options.none.withValue "limit" "1") [.ok, .noContent]
  | .container => handle.request .head .none [.noContent]
  | .object => handle.request .head .none [.ok]

def updateStatuses : Kind → List Http.Status
  | .account => [.noContent]
  | .container => [.noContent]
  | .object => [.accepted]

/-! ## Operations -/

def invalidate : Remote (Handle kind × σ) Unit :=
  modify fun (handle, state) => (handle.invalidated, state)

/-- Keeps the headers of a response, once they are valid for the kind. -/
def keep (response : Http.Response) : Remote (Handle kind × σ) Headers := do
  let headers := Headers.ofFields response.fields
  Remote.ofExcept (headers.validate kind)
  modify fun (handle, state) => ({ handle with cached := some headers }, state)
  return headers

def execute (transport : Transport σ) (request : Request) :
    Remote (Handle kind × σ) Http.Response := do
  let (handle, _) ← get
  Remote.onSecond (request.execute transport handle.site.endpoint)

/-- The headers kept, or else those that the server gives. -/
def headers (transport : Transport σ) : Remote (Handle kind × σ) Headers := do
  let (handle, _) ← get
  match handle.cached with
  | some headers => return headers
  | none => keep (← execute transport handle.fetch)

def exists? (transport : Transport σ) : Remote (Handle kind × σ) Bool := do
  match ← Remote.ofState (headers transport).attempt with
  | .ok _ => return true
  | .error error => if error.isNotFound then return false else throw error

def change (transport : Transport σ) (method : Http.Method) (options : Options)
    (expected : List Http.Status) : Remote (Handle kind × σ) Unit := do
  let (handle, _) ← get
  let _ ← execute transport (handle.request method options expected)
  invalidate

def update (transport : Transport σ) (headers : Headers) (options : Options) :
    Remote (Handle kind × σ) Unit :=
  change transport .post (options.extend headers) (updateStatuses kind)

end Handle

end ObjectStorage
