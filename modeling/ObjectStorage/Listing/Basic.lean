import ObjectStorage.Listing.Record

/-!
# Listings

The containers of an account or the objects of a container, page by page.  The marker is the last
name that was delivered; the server goes on after it.  The first empty page ends the listing, and
from then on nothing more is sent.
-/

namespace ObjectStorage

namespace Listing

inductive Scope : Kind → Type where
  | containers : Scope .container
  | objects (container : String) : Scope .object
  deriving DecidableEq

inductive Position where
  /-- After the marker, or at the start if that is empty. -/
  | after (marker : String)
  | exhausted
  deriving DecidableEq

end Listing

structure Listing (kind : Kind) where
  site : Site
  scope : Listing.Scope kind
  /-- What the names have to begin with. -/
  beginning : String
  options : Options
  position : Listing.Position
  deriving DecidableEq

namespace Listing

variable {kind : Kind} {σ : Type}

namespace Scope

def container? : Scope kind → Option String
  | .containers => none
  | .objects container => some container

def place : Scope kind → String → Place kind
  | .containers, name => .container name
  | .objects container, name => .object container name

def records? : Scope kind → Json → Option (List (Record kind))
  | .containers => Json.list? Record.containerOfJson?
  | .objects _ => Json.list? Record.objectOfJson?

end Scope

def containers (account : Account) (beginning : String) (options : Options) :
    Listing .container :=
  ⟨account.site, .containers, beginning, options, .after ""⟩

def objects (container : Container) (beginning : String) (options : Options) : Listing .object :=
  match container.place with
  | .container name => ⟨container.site, .objects name, beginning, options, .after ""⟩

def handle (listing : Listing kind) (name : String) : Handle kind :=
  Handle.fresh listing.site (listing.scope.place name)

/-! ## Requests -/

def withText (key value : String) (options : Options) : Options :=
  if value = "" then options else options.withValue key value

def withLimit (limit : Option UInt64) (options : Options) : Options :=
  match limit with
  | some limit => options.withValue "limit" (Integer.writeNat limit.toNat)
  | none => options

def withDetails (detailed : Bool) (options : Options) : Options :=
  if detailed then (options.withValue "format" "json").withHeader "Accept" "application/json"
  else options

/-- The options of the caller, overridden by what makes out the page. -/
def pageOptions (listing : Listing kind) (marker : String) (limit : Option UInt64)
    (detailed : Bool) : Options :=
  withDetails detailed
    (withLimit limit (withText "prefix" listing.beginning (withText "marker" marker listing.options)))

def request (listing : Listing kind) (marker : String) (limit : Option UInt64) (detailed : Bool) :
    Request :=
  ⟨.get, listing.scope.container?, none, listing.pageOptions marker limit detailed, .empty,
    [.ok, .noContent], false⟩

/-- The content of a page; an answer without content has none, whatever its body holds. -/
def pageContent (response : Http.Response) : Except Error Bytes :=
  if response.status = .noContent then do
    response.body.drain
    return []
  else response.body.read

/-- The content of the next page; none after the end of the listing. -/
def fetch (transport : Transport σ) (limit : Option UInt64) (detailed : Bool) :
    Remote (Listing kind × σ) (Option Bytes) := do
  let (listing, _) ← get
  match listing.position with
  | .exhausted => return none
  | .after marker =>
      let response ← Remote.onSecond
        ((listing.request marker limit detailed).execute transport listing.site.endpoint)
      return some (← Remote.ofExcept (pageContent response))

/-! ## Pages -/

/-- Goes on after the last name of a page, or ends after a page without names. -/
def positionAfter (names : List String) : Position :=
  match names.getLast? with
  | some name => .after name
  | none => .exhausted

def advance (names : List String) : Remote (Listing kind × σ) Unit :=
  modify fun (listing, state) => ({ listing with position := positionAfter names }, state)

/-- The lines of a plain page; a name may end in a carriage return. -/
def namesOf (content : Bytes) : List String :=
  ((Text.split '\n' (Utf8.decodeLossy content).toList).filter fun line => !line.isEmpty).map
    String.ofList

/-- The records of a detailed page; no content is no record. -/
def recordsOf (scope : Scope kind) (content : Bytes) : Except Error (List (Record kind)) :=
  if content.isEmpty then .ok []
  else match (Json.parse? content).bind scope.records? with
    | some records => .ok records
    | none => .error (.badResponse .malformedListing)

def nextNames (transport : Transport σ) (limit : Option UInt64) :
    Remote (Listing kind × σ) (List String) := do
  match ← fetch transport limit false with
  | none => return []
  | some content =>
      let names := namesOf content
      advance names
      return names

/-- The details of all records, or the fault of the first record that has one. -/
def detailsFrom (position : Nat) : List (Record kind) →
    Except Error (List (String × Details kind))
  | [] => .ok []
  | record :: records => do
      let details ← (record.details position).mapError .badResponse
      return (record.name, details) :: (← detailsFrom (position + 1) records)

def nextRecords (transport : Transport σ) (limit : Option UInt64) :
    Remote (Listing kind × σ) (List (String × Details kind)) := do
  match ← fetch transport limit true with
  | none => return []
  | some content =>
      let (listing, _) ← get
      let records ← Remote.ofExcept (recordsOf listing.scope content)
      let details ← Remote.ofExcept (detailsFrom 0 records)
      advance (records.map Record.name)
      return details

/-- The next page, empty at the end of the listing. -/
def nextPage (transport : Transport σ) (limit : Option UInt64) :
    Remote (Listing kind × σ) (List (Handle kind)) := do
  let (listing, _) ← get
  return (← nextNames transport limit).map listing.handle

def nextPageDetailed (transport : Transport σ) (limit : Option UInt64) :
    Remote (Listing kind × σ) (List (Handle kind × Details kind)) := do
  let (listing, _) ← get
  return (← nextRecords transport limit).map fun (name, details) => (listing.handle name, details)

end Listing

end ObjectStorage
