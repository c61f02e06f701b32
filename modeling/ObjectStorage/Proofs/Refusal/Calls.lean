import ObjectStorage.Proofs.Refusal.Names

/-!
# Calls that are refused

A call needs names, and most calls begin with a request.  If a name is not proper, if there is no
message for the first request, or if something of another account is to be deleted, the call is
refused: nothing is sent, and nothing that the client holds changes.
-/

namespace ObjectStorage

/-- What is held under a name when a listing is. -/
def Held.ofListing {kind : Kind} (listing : Listing kind) : Held :=
  match kind, listing, listing.scope with
  | .container, listing, _ => .containers listing
  | .object, listing, _ => .objects listing

namespace Call

open Client

variable {σ α : Type}

/-! ## What calls begin with -/

/-- The calls that look at the headers of a handle first. -/
inductive Looks : {α : Type} → Call σ α → String → Kind → Prop
  | headers {on : String} {kind : Kind} : Looks (.headers on) on kind
  | exists? {on : String} {kind : Kind} : Looks (.exists? on) on kind
  | ensureExists {on : String} : Looks (.ensureExists on) on .container

/-- The calls that change what a handle denotes, other than copies and streamed uploads. -/
inductive Makes : {α : Type} → Call σ α → String → {kind : Kind} → Mutation kind → Prop
  | update {on : String} {headers : Headers} {options : Options} {kind : Kind} :
      Makes (.update on headers options) on (.update headers options : Mutation kind)
  | createAccount {on : String} {options : Options} :
      Makes (.createAccount on options) on (.createAccount options)
  | createContainer {on : String} {options : Options} :
      Makes (.createContainer on options) on (.createContainer options)
  | deleteContainer {on : String} {options : Options} :
      Makes (.deleteContainer on options) on (.deleteContainer options)
  | deleteObject {on : String} {options : Options} :
      Makes (.deleteObject on options) on (.deleteObject options)
  | upload {on : String} {body : Body} {options : Options} :
      Makes (.upload on body options) on (.upload body options)

/-- The calls that copy one object to another first, with the options. -/
inductive Copies : {α : Type} → Call σ α → String → String → Options → Prop
  | copy {source target : String} {options : Options} :
      Copies (.copy source target options) source target options
  | move {source target : String} {options deleteOptions : Options} :
      Copies (.move source target options deleteOptions) source target options

/-- The calls that ask for a page of a listing first, with the limit and the details. -/
inductive Pages : {α : Type} → Call σ α → String → Option UInt64 → Bool → Prop
  | nextPage {on : String} {limit : Option UInt64} : Pages (.nextPage on limit) on limit false
  | nextPageDetailed {on : String} {limit : Option UInt64} :
      Pages (.nextPageDetailed on limit) on limit true
  | collect {on : String} {rounds : Nat} : Pages (.collect on (rounds + 1)) on none false
  | collectDetailed {on : String} {rounds : Nat} :
      Pages (.collectDetailed on (rounds + 1)) on none true
  | foreach {on : String} {visit : Item → Remote σ Unit} {rounds : Nat} :
      Pages (.foreach on visit (rounds + 1)) on none false
  | foreachDetailed {on : String} {visit : Item → Remote σ Unit} {rounds : Nat} :
      Pages (.foreachDetailed on visit (rounds + 1)) on none true

/-- The first request of a call, and the endpoint that it goes to. -/
inductive Begins (client : Client) : {α : Type} → Call σ α → Url → Request → Prop
  | looks {α : Type} {call : Call σ α} {on : String} {kind : Kind} {handle : Handle kind}
      (looks : call.Looks on kind) (held : client.get? on = some (.ofHandle handle))
      (empty : handle.cached = none) :
      Begins client call handle.site.endpoint handle.fetch
  | makes {α : Type} {call : Call σ α} {on : String} {kind : Kind} {handle : Handle kind}
      {mutation : Mutation kind} (makes : call.Makes on mutation)
      (held : client.get? on = some (.ofHandle handle)) :
      Begins client call (mutation.endpoint handle) (mutation.request handle)
  | download {on : String} {object : Object} {options : Options}
      (held : client.get? on = some (.object object)) :
      Begins client (.download on options) object.site.endpoint
        { object.request .get options [.ok] with drains := false }
  | copies {α : Type} {call : Call σ α} {source target : String} {options : Options}
      {object other : Object} (copies : call.Copies source target options)
      (held : client.get? source = some (.object object))
      (heldToo : client.get? target = some (.object other)) :
      Begins client call object.site.endpoint (Object.copyRequest object other options)
  | pages {α : Type} {call : Call σ α} {on marker : String} {limit : Option UInt64}
      {detailed : Bool} {kind : Kind} {listing : Listing kind}
      (pages : call.Pages on limit detailed) (held : client.get? on = some (.ofListing listing))
      (going : listing.position = .after marker) :
      Begins client call listing.site.endpoint (listing.request marker limit detailed)
  | capabilities {on : String} {account : Account} {root : Url}
      (held : client.get? on = some (.account account))
      (rooted : Site.clusterRoot account.site.endpoint = .ok root) :
      Begins client (.capabilities on) root Account.infoRequest
  | bulkDelete {on : String} {account : Account} {doomed : List (String × String × String)}
      {doomedToo : List (String × String)} {objects : List Object} {containers : List Container}
      {options : Options} {lines batch : List String} {rest : List (List String)}
      (held : client.get? on = some (.account account))
      (objectsHeld : doomedObjects client doomed = .ok objects)
      (containersHeld : doomedContainers client doomedToo = .ok containers)
      (given : Account.paths account.site.account (Account.allDoomed objects containers) =
        .ok lines)
      (first : Account.batches account.site.settings.bulkDeleteBatchSize.toNat lines =
        batch :: rest) :
      Begins client (.bulkDelete on doomed doomedToo options) account.site.endpoint
        (Account.deleteRequest options batch)
  | bulkUpload {on path : String} {account : Account} {format : ArchiveFormat} {archive : Body}
      {options : Options} (held : client.get? on = some (.account account)) :
      Begins client (.bulkUpload on path format archive options) account.site.endpoint
        (Account.extractRequest path format archive options)
  | request {on : String} {account : Account} {raw : Request}
      (held : client.get? on = some (.account account)) :
      Begins client (.request on raw) account.site.endpoint raw

/-- The names that a call needs, whether or not a request says them. -/
inductive Needs (client : Client) : {α : Type} → Call σ α → Option String → Option String → Prop
  | looks {α : Type} {call : Call σ α} {on : String} {kind : Kind} {handle : Handle kind}
      (looks : call.Looks on kind) (held : client.get? on = some (.ofHandle handle)) :
      Needs client call handle.place.container? handle.place.object?
  | target {α : Type} {call : Call σ α} {source target : String} {options : Options}
      {object : Object} (copies : call.Copies source target options)
      (held : client.get? target = some (.object object)) :
      Needs client call (some object.containerName) (some object.name)
  | pages {α : Type} {call : Call σ α} {on : String} {limit : Option UInt64} {detailed : Bool}
      {kind : Kind} {listing : Listing kind} (pages : call.Pages on limit detailed)
      (held : client.get? on = some (.ofListing listing)) :
      Needs client call listing.scope.container? none
  | doomed {on : String} {doomed : List (String × String × String)}
      {doomedToo : List (String × String)} {objects : List Object} {containers : List Container}
      {options : Options} {one : Account.Doomed}
      (objectsHeld : doomedObjects client doomed = .ok objects)
      (containersHeld : doomedContainers client doomedToo = .ok containers)
      (among : one ∈ Account.allDoomed objects containers) :
      Needs client (.bulkDelete on doomed doomedToo options) (some one.container) one.object

/-- Why a call cannot be made. -/
inductive Unbuildable (client : Client) : {α : Type} → Call σ α → Prop
  | request {α : Type} {call : Call σ α} {endpoint : Url} {request : Request}
      (begins : call.Begins client endpoint request) (refused : request.IsRefused endpoint) :
      Unbuildable client call
  | names {α : Type} {call : Call σ α} {container object : Option String}
      (needs : call.Needs client container object)
      (improper : ¬Address.AreProper container object) : Unbuildable client call
  | foreign {on : String} {account : Account} {doomed : List (String × String × String)}
      {doomedToo : List (String × String)} {objects : List Object} {containers : List Container}
      {options : Options} {one : Account.Doomed}
      (held : client.get? on = some (.account account))
      (objectsHeld : doomedObjects client doomed = .ok objects)
      (containersHeld : doomedContainers client doomedToo = .ok containers)
      (among : one ∈ Account.allDoomed objects containers)
      (foreign : one.account ≠ account.site.account) :
      Unbuildable client (.bulkDelete on doomed doomedToo options)
  | rootless {on : String} {account : Account} {fault : RequestFault}
      (held : client.get? on = some (.account account))
      (rootless : Site.clusterRoot account.site.endpoint = .error fault) :
      Unbuildable client (.capabilities on)

end Call

/-! ## Operations on what is held -/

namespace Client

open Remote

variable {σ α τ : Type} {client : Client} {name : String} {state : σ}

theorem put_same {held : Held} (h : client.get? name = some held) : client.put name held = client :=
  congrArg Client.mk (Dictionary.ext_get? (get?_put_same h))

theorem onPart_refuses {hold : τ → Held} {part : τ} {operation : Remote (τ × σ) α}
    (held : client.get? name = some (hold part)) (refuses : operation.Refuses (part, state)) :
    (onPart name hold part operation).Refuses (client, state) := by
  obtain ⟨error, refusal, run⟩ := refuses
  refine ⟨error, refusal, ?_⟩
  rw [attempt_onPart, run, put_same held]

theorem onHandle_refuses {kind : Kind} {handle : Handle kind}
    (held : client.get? name = some (.ofHandle handle))
    {operation : {kind : Kind} → Remote (Handle kind × σ) α}
    (refuses : (operation : Remote (Handle kind × σ) α).Refuses (handle, state)) :
    (onHandle name operation).Refuses (client, state) := by
  obtain ⟨error, refusal, run⟩ := refuses
  refine ⟨error, refusal, ?_⟩
  rw [attempt_onHandle held, run, put_same held]

theorem bind_held?_of_get? {slot : Slot τ} {part : τ}
    (held : client.get? name = some (slot.hold part)) :
    (client.get? name).bind slot.held? = some part := by
  rw [held]
  exact slot.held?_eq_some_iff.mpr rfl

theorem onHeld_refuses {slot : Slot τ} {part : τ} (held : client.get? name = some (slot.hold part))
    {operation : Remote (τ × σ) α} (refuses : operation.Refuses (part, state)) :
    (onHeld slot name operation).Refuses (client, state) := by
  refine .after_get ?_
  simp only [bind_held?_of_get? held]
  exact onPart_refuses held refuses

theorem onParts_refuses {source target : String} {object other : Object}
    (held : client.get? source = some (.object object))
    (heldToo : client.get? target = some (.object other))
    {operation : Remote (Object × Object × σ) Unit}
    (refuses : operation.Refuses (object, other, state)) :
    (onParts (source, object) (target, other) operation).Refuses (client, state) := by
  obtain ⟨error, refusal, run⟩ := refuses
  refine ⟨error, refusal, ?_⟩
  rw [attempt_onParts, run]
  dsimp only
  rw [put_same heldToo, put_same held]

theorem onListing_refuses {kind : Kind} {listing : Listing kind} {Page : Kind → Type}
    {operation : ListingOperation σ α}
    (page : (kind : Kind) → Remote (Listing kind × σ) (Page kind))
    (held : client.get? name = some (.ofListing listing))
    (refuses : (page kind).Refuses (listing, state))
    (containers : ∀ listing, (page .container).Refuses (listing, state) →
      operation.containers.Refuses (listing, state))
    (objects : ∀ listing, (page .object).Refuses (listing, state) →
      operation.objects.Refuses (listing, state)) :
    (onListing name operation).Refuses (client, state) := by
  refine .after_get ?_
  cases kind with
  | account => exact nomatch listing.scope
  | container =>
      simp only [held, Held.ofListing]
      exact onPart_refuses held (containers listing refuses)
  | object =>
      simp only [held, Held.ofListing]
      exact onPart_refuses held (objects listing refuses)

theorem IsProper.isProper_handle {kind : Kind} {handle : Handle kind} (proper : client.IsProper)
    (held : client.get? name = some (.ofHandle handle)) : handle.IsProper := by
  cases kind <;> exact proper name _ held

theorem IsProper.isProper_listing {kind : Kind} {listing : Listing kind}
    (proper : client.IsProper) (held : client.get? name = some (.ofListing listing)) :
    listing.IsProper := by
  cases kind with
  | account => exact nomatch listing.scope
  | container => exact proper name _ held
  | object => exact proper name _ held

theorem find_of_get? {slot : Slot τ} {part : τ} (held : client.get? name = some (slot.hold part)) :
    client.find slot name = .ok part := by
  rw [find, bind_held?_of_get? held]

theorem withAccount_refuses {account : Account} (held : client.account name = .ok account)
    {operation : Account → Remote σ α} (refuses : (operation account).Refuses state) :
    (withAccount name operation).Refuses (client, state) :=
  .after_get (.after_ofExcept held (refuses.onSecond client))

private theorem withAccount_refuses_missing {fault : RequestFault}
    (missing : client.account name = .error (.invalidRequest fault))
    (operation : Account → Remote σ α) : (withAccount name operation).Refuses (client, state) :=
  .after_get (.bind (refuses_ofExcept (.invalidRequest fault) missing))

end Client

/-! ## Calls -/

namespace Call

open Client Remote

variable {σ α : Type} {transport : Transport σ} {client : Client} {state : σ} {call : Call σ α}

theorem Looks.perform_refuses {on : String} {kind : Kind} {handle : Handle kind}
    (looks : call.Looks on kind) (held : client.get? on = some (.ofHandle handle))
    (refuses : (Handle.headers transport).Refuses (handle, state)) :
    (call.perform transport).Refuses (client, state) := by
  cases looks with
  | headers =>
      unfold perform
      exact onHandle_refuses held refuses
  | exists? =>
      unfold perform
      exact onHandle_refuses held (Handle.exists?_refuses transport refuses)
  | ensureExists =>
      exact onHeld_refuses held (Handle.exists?_refuses transport refuses).bind

theorem Makes.perform_refuses {on : String} {kind : Kind} {handle : Handle kind}
    {mutation : Mutation kind}
    (makes : call.Makes on mutation) (held : client.get? on = some (.ofHandle handle))
    (refused : (mutation.request handle).IsRefused (mutation.endpoint handle)) :
    (call.perform transport).Refuses (client, state) := by
  cases makes with
  | update =>
      unfold perform
      exact onHandle_refuses held (Handle.change_refuses transport refused)
  | createAccount => exact onHeld_refuses held (Handle.change_refuses transport refused)
  | createContainer => exact onHeld_refuses held (Handle.change_refuses transport refused)
  | deleteContainer => exact onHeld_refuses held (Handle.change_refuses transport refused)
  | deleteObject => exact onHeld_refuses held (Handle.change_refuses transport refused)
  | upload => exact onHeld_refuses held (Object.upload_refuses transport refused)

/-- A source or target that is missing is as good as one that is refused. -/
theorem Copies.perform_refuses {source target : String} {options : Options} {other : Object}
    (copies : call.Copies source target options)
    (heldToo : client.get? target = some (.object other))
    (refuses : ∀ object, client.get? source = some (.object object) →
      (Object.copyFrom transport object options).Refuses (other, state)) :
    (call.perform transport).Refuses (client, state) := by
  rcases find_cases client .object source with ⟨object, held, found⟩ | ⟨fault, missing⟩
  · cases copies with
    | copy =>
        refine .after_get (.after_ofExcept found ?_)
        exact onHeld_refuses heldToo (refuses object held)
    | move =>
        refine .after_get (.after_ofExcept found (.after_ofExcept (find_of_get? heldToo) ?_))
        exact onParts_refuses held heldToo (Object.move_refuses transport (refuses object held))
  · have refusal : (Remote.ofExcept (client.object source)).Refuses (client, state) :=
      refuses_ofExcept (.invalidRequest fault) missing
    cases copies with
    | copy => exact .after_get refusal.bind
    | move => exact .after_get refusal.bind

theorem Pages.perform_refuses {on marker : String} {limit : Option UInt64} {detailed : Bool}
    {kind : Kind} {listing : Listing kind} (pages : call.Pages on limit detailed)
    (held : client.get? on = some (.ofListing listing))
    (going : listing.position = .after marker)
    (refused : (listing.request marker limit detailed).IsRefused listing.site.endpoint) :
    (call.perform transport).Refuses (client, state) := by
  cases pages with
  | nextPage =>
      exact onListing_refuses (fun _ => Listing.nextPage transport limit) held
        (Listing.nextPage_refuses transport going refused)
        (fun _ refuses => refuses.map _) (fun _ refuses => refuses.map _)
  | nextPageDetailed =>
      exact onListing_refuses (fun _ => Listing.nextPageDetailed transport limit) held
        (Listing.nextPageDetailed_refuses transport going refused)
        (fun _ refuses => refuses.map _) (fun _ refuses => refuses.map _)
  | collect =>
      exact onListing_refuses (fun _ => Listing.nextPage transport none) held
        (Listing.nextPage_refuses transport going refused)
        (fun _ refuses => refuses.bind.map _) (fun _ refuses => refuses.bind.map _)
  | collectDetailed =>
      exact onListing_refuses (fun _ => Listing.nextPageDetailed transport none) held
        (Listing.nextPageDetailed_refuses transport going refused)
        (fun _ refuses => refuses.bind.map _) (fun _ refuses => refuses.bind.map _)
  | foreach =>
      exact onListing_refuses (fun _ => Listing.nextPage transport none) held
        (Listing.nextPage_refuses transport going refused)
        (fun _ refuses => refuses.bind) (fun _ refuses => refuses.bind)
  | foreachDetailed =>
      exact onListing_refuses (fun _ => Listing.nextPageDetailed transport none) held
        (Listing.nextPageDetailed_refuses transport going refused)
        (fun _ refuses => refuses.bind) (fun _ refuses => refuses.bind)

theorem bulkDelete_refuses {on : String} {doomed : List (String × String × String)}
    {doomedToo : List (String × String)} {objects : List Object} {containers : List Container}
    {options : Options} (objectsHeld : doomedObjects client doomed = .ok objects)
    (containersHeld : doomedContainers client doomedToo = .ok containers)
    (refuses : ∀ account, client.account on = .ok account →
      (Account.bulkDelete transport account objects containers options).Refuses state) :
    ((Call.bulkDelete on doomed doomedToo options).perform transport).Refuses (client, state) := by
  refine .after_get (.after_ofExcept objectsHeld (.after_ofExcept containersHeld ?_))
  rcases find_cases client .account on with ⟨account, -, found⟩ | ⟨fault, missing⟩
  · exact withAccount_refuses found (refuses account found)
  · exact withAccount_refuses_missing missing _

theorem Begins.perform_refuses {endpoint : Url} {request : Request}
    (begins : call.Begins client endpoint request) (refused : request.IsRefused endpoint) :
    (call.perform transport).Refuses (client, state) := by
  cases begins with
  | looks looks held empty =>
      exact looks.perform_refuses held (Handle.headers_refuses transport empty refused)
  | makes makes held => exact makes.perform_refuses held refused
  | download held => exact onHeld_refuses held (Object.download_refuses transport refused)
  | copies copies held heldToo =>
      refine copies.perform_refuses heldToo ?_
      intro object again
      cases held.symm.trans again
      exact Object.copyFrom_refuses transport refused
  | pages pages held going => exact pages.perform_refuses held going refused
  | capabilities held rooted =>
      exact withAccount_refuses (find_of_get? held)
        (Account.capabilities_refuses transport rooted refused)
  | bulkDelete held objectsHeld containersHeld given first =>
      refine bulkDelete_refuses objectsHeld containersHeld ?_
      intro account found
      cases (find_of_get? held).symm.trans found
      exact Account.bulkDelete_refuses transport given first refused
  | bulkUpload held =>
      exact withAccount_refuses (find_of_get? held)
        (Account.bulkUpload_refuses transport refused)
  | request held =>
      exact withAccount_refuses (find_of_get? held) (refused.execute_refuses transport state)

theorem Needs.perform_refuses {container object : Option String} (proper : client.IsProper)
    (needs : call.Needs client container object)
    (improper : ¬Address.AreProper container object) :
    (call.perform transport).Refuses (client, state) := by
  cases needs with
  | @looks _ _ on kind handle looks held =>
      have empty : handle.cached = none := by
        by_contra kept
        exact improper (proper.isProper_handle held kept)
      exact looks.perform_refuses held
        (Handle.headers_refuses transport empty (Handle.fetch_isRefused improper))
  | target copies held =>
      exact copies.perform_refuses held fun _ _ => Object.copyFrom_refuses_target transport improper
  | @pages _ _ on limit detailed kind listing pages held =>
      cases position : listing.position with
      | exhausted => exact absurd (proper.isProper_listing held position) improper
      | after marker => exact pages.perform_refuses held position (.names improper)
  | doomed objectsHeld containersHeld among =>
      refine bulkDelete_refuses objectsHeld containersHeld fun account _ => ?_
      exact Account.bulkDelete_refuses_doomed transport among fun own =>
        improper (Address.areProper_some.mpr own.2)

theorem Unbuildable.perform_refuses (proper : client.IsProper)
    (unbuildable : call.Unbuildable client) : (call.perform transport).Refuses (client, state) := by
  cases unbuildable with
  | request begins refused => exact begins.perform_refuses refused
  | names needs improper => exact needs.perform_refuses proper improper
  | foreign held objectsHeld containersHeld among foreign =>
      refine bulkDelete_refuses objectsHeld containersHeld fun account found => ?_
      cases (find_of_get? held).symm.trans found
      exact Account.bulkDelete_refuses_doomed transport among fun own => foreign own.1
  | rootless held rootless =>
      exact withAccount_refuses (find_of_get? held)
        (Account.capabilities_refuses_root transport rootless)

end Call

/-- A client that no handle keeps headers of yet, and no listing of which has ended. -/
structure Client.IsUnused (client : Client) : Prop where
  fresh : client.IsFresh
  going : ∀ (name : String) {kind : Kind} (listing : Listing kind),
    client.get? name = some (.ofListing listing) → listing.position ≠ .exhausted

theorem Client.IsUnused.isProper {client : Client} (unused : client.IsUnused) :
    client.IsProper := by
  intro name held found
  cases held with
  | account account => exact Handle.isProper_of_empty (unused.fresh name account found)
  | container container => exact Handle.isProper_of_empty (unused.fresh name container found)
  | object object => exact Handle.isProper_of_empty (unused.fresh name object found)
  | containers listing => exact fun ended => absurd ended (unused.going name listing found)
  | objects listing => exact fun ended => absurd ended (unused.going name listing found)

theorem Client.isUnused_empty : Client.empty.IsUnused where
  fresh := isFresh_empty
  going name _ _ held := nomatch (Dictionary.get?_empty name).symm.trans held

private theorem Client.IsUnused.put_fresh {client : Client} (unused : client.IsUnused)
    (name : String) {kind : Kind} (site : Site) (place : Place kind) :
    (client.put name (.ofHandle (Handle.fresh site place))).IsUnused where
  fresh := unused.fresh.put_fresh name site place
  going other second listing held := by
    rw [Client.get?_put] at held
    split at held
    · -- What is held is a handle.
      cases second with
      | account => exact nomatch listing.scope
      | container => cases kind <;> exact nomatch held
      | object => cases kind <;> exact nomatch held
    · exact unused.going other listing held

/--
After any calls, whatever was answered: a call that cannot be made, because of a name that it needs,
because of a handle of an account of another name, or because there is no message for its first
request, ends as an invalid request or a bad header.  Nothing is sent for it, not even what does not
depend on that name or handle, and neither headers that are kept nor positions of listings change.
Nor is there an address of a handle with such a name.
-/
theorem unbuildable_calls_refused {σ : Type} {transport : Transport σ} {client : Client}
    {earlier : List (Sigma (Call (List Observation × σ)))} {events : List Observation} {state : σ}
    {reached : Client × List Observation × σ} (unused : client.IsUnused)
    (ran : (Call.failures transport.observed earlier (client, (events, state))).2 = reached) :
    (∀ {α : Type} (call : Call (List Observation × σ) α), call.Unbuildable reached.1 →
      ∃ error, error.IsRefusal ∧
        (call.perform transport.observed).attempt reached = (.error error, reached)) ∧
    ∀ {kind : Kind} (handle : Handle kind),
      ¬Address.AreProper handle.place.container? handle.place.object? →
      ∃ fault, handle.url = .error (.invalidRequest fault) := by
  have proper : reached.1.IsProper := by
    rw [← ran]
    exact Call.isProper_failures transport.observed earlier _ unused.isProper
  exact ⟨fun call unbuildable => unbuildable.perform_refuses proper,
    fun handle improper => Request.url_of_improper improper⟩

/-- The desk, and the account that it is in. -/
def office : Client := desk.put "home" (.account (Handle.fresh deskSite .account))

private theorem isUnused_office : office.IsUnused :=
  (Client.isUnused_empty.put_fresh "box" deskSite (.container "box")).put_fresh "home" deskSite
    .account

/-- One object that cannot be named keeps the others from being deleted, and their container. -/
theorem unbuildable_calls_refused_office :
    office.IsUnused ∧ ∃ reached error,
      (Call.failures countingServer.observed [⟨Headers, .headers "box"⟩] (office, ([], 7))).2 =
        reached ∧
      reached.2.1.length = 1 ∧ error.IsRefusal ∧
      ((Call.bulkDelete "home" [("home", "box", "a"), ("home", "..", "b")] [("home", "box")]
        .none).perform countingServer.observed).attempt reached = (.error error, reached) := by
  generalize ran : (Call.failures countingServer.observed [⟨Headers, .headers "box"⟩]
    (office, ([], 7))).2 = reached
  have facts : Call.doomedObjects reached.1 [("home", "box", "a"), ("home", "..", "b")] =
        .ok [Handle.fresh deskSite (.object "box" "a"), Handle.fresh deskSite (.object ".." "b")] ∧
      Call.doomedContainers reached.1 [("home", "box")] =
        .ok [Handle.fresh deskSite (.container "box")] ∧ reached.2.1.length = 1 := by
    rw [← ran]
    decide +kernel
  obtain ⟨objects, containers, sent⟩ := facts
  have unbuildable : (Call.bulkDelete "home" [("home", "box", "a"), ("home", "..", "b")]
      [("home", "box")] .none : Call (List Observation × Nat) _).Unbuildable reached.1 := by
    refine .names (.doomed objects containers (List.mem_cons_of_mem _ List.mem_cons_self)) ?_
    exact fun proper => nomatch Address.areProper_some.mp proper
  obtain ⟨refused, -⟩ := unbuildable_calls_refused isUnused_office ran
  obtain ⟨error, refusal, run⟩ := refused _ unbuildable
  exact ⟨isUnused_office, reached, error, rfl, sent, refusal, run⟩

end ObjectStorage
