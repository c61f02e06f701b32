import ObjectStorage.Proofs.Cache.Invariant
import ObjectStorage.Proofs.Connection.Calls
import ObjectStorage.Proofs.Refusal.Operations

/-!
# Names that were asked for

A handle that keeps headers and a listing that has ended have been answered once, so that their
names are proper.  Every call keeps this of all that a client holds.
-/

namespace ObjectStorage

/-! ## Operations that preserve a property -/

namespace Remote

variable {σ τ α β : Type} {Holds : σ → Prop}

/-- What holds of the state before the operation holds after it, however it ends. -/
def Preserves (Holds : σ → Prop) (operation : Remote σ α) : Prop :=
  ∀ state, Holds state → Holds (operation.attempt state).2

namespace Preserves

theorem of_unchanged {operation : Remote σ α}
    (same : ∀ state, (operation.attempt state).2 = state) : Preserves Holds operation := by
  intro state holds
  rw [same]
  exact holds

theorem pure (value : α) : Preserves Holds (pure value : Remote σ α) := of_unchanged fun _ => rfl

theorem get : Preserves Holds (get : Remote σ σ) := of_unchanged fun _ => rfl

theorem ofExcept (result : Except Error α) : Preserves Holds (Remote.ofExcept result) := by
  apply of_unchanged
  intro state
  rw [attempt_ofExcept]

theorem bind {operation : Remote σ α} {next : α → Remote σ β} (first : Preserves Holds operation)
    (rest : ∀ value, Preserves Holds (next value)) : Preserves Holds (operation >>= next) := by
  intro state holds
  have kept := first state holds
  rw [attempt_bind]
  cases run : operation.attempt state with
  | mk result reached =>
  rw [run] at kept
  cases result with
  | error error => exact kept
  | ok value => exact rest value reached kept

theorem map (change : α → β) {operation : Remote σ α} (preserves : Preserves Holds operation) :
    Preserves Holds (change <$> operation) := by
  intro state holds
  rw [attempt_map]
  exact preserves state holds

theorem onSecond {Holds : τ → Prop} (operation : Remote σ α) :
    Preserves (fun state : τ × σ => Holds state.1) (Remote.onSecond operation) := by
  rintro ⟨first, state⟩ holds
  rw [attempt_onSecond]
  exact holds

end Preserves

end Remote

open Remote (Preserves)

variable {σ α : Type} {transport : Transport σ}

theorem Request.exists_written {request : Request} {endpoint : Url} {response : Http.Response}
    {state next : σ}
    (run : (request.execute transport endpoint).attempt state = (.ok response, next)) :
    ∃ message, request.written endpoint = .ok message := by
  cases written : request.written endpoint with
  | ok message => exact ⟨message, rfl⟩
  | error error =>
      rw [Remote.attempt_of_error (execute_of_unwritten written)] at run
      exact nomatch run

/-! ## Handles -/

namespace Handle

variable {kind : Kind}

def IsProper (handle : Handle kind) : Prop :=
  handle.cached ≠ none → Address.AreProper handle.place.container? handle.place.object?

theorem isProper_of_empty {handle : Handle kind} (empty : handle.cached = none) :
    handle.IsProper :=
  fun kept => absurd empty kept

theorem keep_preserves (place : Place kind) (response : Http.Response) :
    Preserves (fun state : Handle kind × σ => state.1.place = place) (Handle.keep response) := by
  rintro ⟨handle, state⟩ same
  rw [attempt_keep]
  cases (Headers.ofFields response.fields).validate kind <;> exact same

theorem isProper_executed {handle : Handle kind} {request : Request}
    {next : Http.Response → Remote (Handle kind × σ) α} (proper : handle.IsProper)
    (container : request.container = handle.place.container?)
    (object : request.object = handle.place.object?)
    (rest : ∀ response,
      Preserves (fun state : Handle kind × σ => state.1.place = handle.place) (next response))
    (state : σ) :
    ((Handle.execute transport request >>= next).attempt (handle, state)).2.1.IsProper := by
  rw [Remote.attempt_bind, attempt_execute]
  cases run : (request.execute transport handle.site.endpoint).attempt state with
  | mk result reached =>
  cases result with
  | error error => exact proper
  | ok response =>
      obtain ⟨message, written⟩ := Request.exists_written run
      have named := Request.areProper_of_written written
      rw [container, object, ← rest response (handle, reached) rfl] at named
      exact fun _ => named

theorem headers_preserves :
    Preserves (fun state : Handle kind × σ => state.1.IsProper) (Handle.headers transport) := by
  rintro ⟨handle, state⟩ proper
  unfold Handle.headers
  rw [Remote.attempt_bind, Remote.attempt_get]
  dsimp only
  split
  · exact proper
  · apply isProper_executed proper
    · cases kind <;> rfl
    · cases kind <;> rfl
    · exact keep_preserves handle.place

theorem exists?_preserves :
    Preserves (fun state : Handle kind × σ => state.1.IsProper) (Handle.exists? transport) := by
  rintro ⟨handle, state⟩ proper
  rw [attempt_exists?]
  exact headers_preserves (handle, state) proper

private theorem invalidate_preserves :
    Preserves (fun state : Handle kind × σ => state.1.IsProper) Handle.invalidate :=
  fun _ _ => isProper_of_empty rfl

theorem Performed.after_isProper {request : Request} {endpoint : Url} {handle after : Handle kind}
    {state next : σ} {result : Except Error Unit} (proper : handle.IsProper)
    (performed : Performed transport request endpoint handle state result after next) :
    after.IsProper := by
  cases performed with
  | unsent => exact proper
  | failed => exact proper
  | done => exact isProper_of_empty rfl

end Handle

theorem Mutation.perform_preserves {kind : Kind} (mutation : Mutation kind) :
    Preserves (fun state : Handle kind × σ => state.1.IsProper) (mutation.perform transport) := by
  rintro ⟨handle, state⟩ proper
  obtain ⟨result, after, next, run, performed⟩ := mutation.perform_performed transport handle state
  rw [run]
  exact performed.after_isProper proper

private theorem Container.ensureExists_preserves :
    Preserves (fun state : Container × σ => state.1.IsProper)
      (Container.ensureExists transport) := by
  refine .bind Handle.exists?_preserves fun found => ?_
  cases found with
  | true => exact .pure _
  | false => exact (Mutation.createContainer .none).perform_preserves

namespace Object

private theorem download_preserves (options : Options) :
    Preserves (fun state : Object × σ => state.1.IsProper) (Object.download transport options) := by
  rintro ⟨object, state⟩ proper
  unfold Object.download
  rw [Remote.attempt_bind, Remote.attempt_get]
  apply Handle.isProper_executed proper rfl rfl
  exact fun response => .bind (Handle.keep_preserves object.place response) fun _ => .pure _

private theorem move_preserves (options deleteOptions : Options) :
    Preserves (fun state : Object × Object × σ => state.1.IsProper ∧ state.2.1.IsProper)
      (Object.move transport options deleteOptions) := by
  rintro ⟨source, target, state⟩ ⟨proper, properToo⟩
  have preserves : Preserves (fun state : Object × σ => state.1.IsProper)
      (Object.copyFrom transport source options) :=
    (Mutation.copy source options).perform_preserves
  have copied := preserves (target, state) properToo
  rw [attempt_move]
  cases run : (Object.copyFrom transport source options).attempt (target, state) with
  | mk result reached =>
  rw [run] at copied
  cases result with
  | error error => exact ⟨proper, copied⟩
  | ok value =>
      dsimp only
      cases deleted : ((deleteRequest source deleteOptions).execute transport
        source.site.endpoint).attempt reached.2 with
      | mk result last =>
      cases result with
      | error error => exact ⟨proper, copied⟩
      | ok value => exact ⟨Handle.isProper_of_empty rfl, copied⟩

end Object

/-! ## Listings -/

namespace Listing

variable {kind : Kind}

def IsProper (listing : Listing kind) : Prop :=
  listing.position = .exhausted → Address.AreProper listing.scope.container? none

theorem page_preserves (call : PageCall) :
    Preserves (fun state : Listing kind × σ => state.1.IsProper) (call.page transport) := by
  rintro ⟨listing, state⟩ proper
  cases position : listing.position with
  | exhausted =>
      rw [attempt_page_exhausted position]
      exact proper
  | after marker =>
      rw [attempt_page position]
      cases run : ((listing.request marker call.limit call.detailed).execute transport
        listing.site.endpoint).attempt state with
      | mk result next =>
      cases result with
      | error error => exact proper
      | ok response =>
          dsimp only
          cases namesGiven listing.scope call.detailed response with
          | error error => exact proper
          | ok names =>
              obtain ⟨message, written⟩ := Request.exists_written run
              exact fun _ => Request.areProper_of_written written

private theorem nextPage_preserves (limit : Option UInt64) :
    Preserves (fun state : Listing kind × σ => state.1.IsProper) (nextPage transport limit) :=
  page_preserves ⟨limit, false⟩

private theorem nextPageDetailed_preserves (limit : Option UInt64) :
    Preserves (fun state : Listing kind × σ => state.1.IsProper)
      (nextPageDetailed transport limit) := by
  intro state proper
  have preserves : Preserves (fun state : Listing kind × σ => state.1.IsProper)
      (PageCall.page transport ⟨limit, true⟩) :=
    page_preserves _
  have kept := preserves state proper
  unfold PageCall.page at kept
  rw [if_pos rfl, Remote.attempt_map] at kept
  exact kept

variable {Holds : Listing kind × σ → Prop} {page : Remote (Listing kind × σ) (List α)}

private theorem collectPages_preserves (pages : Preserves Holds page) (rounds : Nat) :
    Preserves Holds (collectPages page rounds) := by
  induction rounds with
  | zero => exact .pure _
  | succ rounds ih =>
      refine .bind pages fun items => ?_
      split
      · exact .pure _
      · refine .bind ih fun rest => ?_
        cases rest <;> exact .pure _

private theorem visitPages_preserves {Holds : Listing kind → Prop}
    (pages : Preserves (fun state : Listing kind × σ => Holds state.1) page)
    (visit : α → Remote σ Unit) (rounds : Nat) :
    Preserves (fun state : Listing kind × σ => Holds state.1) (visitPages page visit rounds) := by
  have all : ∀ items : List α, Preserves (fun state : Listing kind × σ => Holds state.1)
      (items.forM fun item => Remote.onSecond (visit item)) := by
    intro items
    induction items with
    | nil => exact .pure _
    | cons item rest ih => exact .bind (.onSecond (visit item)) fun _ => ih
  induction rounds with
  | zero => exact .pure _
  | succ rounds ih =>
      refine .bind pages fun items => ?_
      split
      · exact .pure _
      · exact .bind (all items) fun _ => ih

private theorem isProper_containers (account : Account) (beginning : String) (options : Options) :
    (containers account beginning options).IsProper :=
  nofun

private theorem isProper_objects (container : Container) (beginning : String) (options : Options) :
    (objects container beginning options).IsProper := by
  obtain ⟨site, ⟨name⟩, cached⟩ := container
  exact nofun

end Listing

/-! ## Clients -/

/-- Whether names that were asked for are proper. -/
def Held.IsProper : Held → Prop
  | .account handle => handle.IsProper
  | .container handle => handle.IsProper
  | .object handle => handle.IsProper
  | .containers listing => listing.IsProper
  | .objects listing => listing.IsProper

namespace Client

def IsProper (client : Client) : Prop :=
  ∀ name held, client.get? name = some held → held.IsProper

theorem IsProper.put {client : Client} (proper : client.IsProper) (name : String) {held : Held}
    (fits : held.IsProper) : (client.put name held).IsProper := by
  intro other found get
  rw [get?_put] at get
  split at get
  · cases get
    exact fits
  · exact proper other found get

theorem IsProper.isProper_object {client : Client} (proper : client.IsProper) {name : String}
    {object : Object} (held : client.object name = .ok object) : object.IsProper := by
  rcases find_cases client .object name with ⟨part, found, same⟩ | ⟨fault, absent⟩
  · cases held.symm.trans same
    exact proper name _ found
  · exact nomatch held.symm.trans absent

theorem onPart_preserves {τ : Type} (name : String) {hold : τ → Held} {part : τ}
    {operation : Remote (τ × σ) α}
    (preserves : Preserves (fun state => (hold state.1).IsProper) operation)
    (fits : (hold part).IsProper) :
    Preserves (fun state : Client × σ => state.1.IsProper) (onPart name hold part operation) := by
  rintro ⟨client, state⟩ proper
  rw [attempt_onPart]
  exact proper.put name (preserves (part, state) fits)

theorem onHandle_preserves (name : String) {operation : {kind : Kind} → Remote (Handle kind × σ) α}
    (preserves : ∀ {kind : Kind}, Preserves (fun state => state.1.IsProper)
      (operation : Remote (Handle kind × σ) α)) :
    Preserves (fun state : Client × σ => state.1.IsProper) (onHandle name operation) := by
  rintro ⟨client, state⟩ proper
  unfold onHandle
  rw [Remote.attempt_bind, Remote.attempt_get]
  dsimp only
  split
  · next held => exact onPart_preserves name preserves (proper name _ held) (client, state) proper
  · next held => exact onPart_preserves name preserves (proper name _ held) (client, state) proper
  · next held => exact onPart_preserves name preserves (proper name _ held) (client, state) proper
  · exact proper

theorem onHeld_preserves (slot : Slot τ) (name : String) {operation : Remote (τ × σ) α}
    (preserves : Preserves (fun state => (slot.hold state.1).IsProper) operation) :
    Preserves (fun state : Client × σ => state.1.IsProper) (onHeld slot name operation) := by
  rintro ⟨client, state⟩ proper
  rcases onHeld_cases slot client name operation state with ⟨part, held, run⟩ | ⟨fault, run⟩
  · rw [run]
    exact onPart_preserves name preserves (proper name _ held) (client, state) proper
  · rw [run]
    exact proper

theorem onParts_preserves {first second : String × Object}
    {operation : Remote (Object × Object × σ) Unit}
    (preserves : Preserves (fun state => state.1.IsProper ∧ state.2.1.IsProper) operation)
    (fits : first.2.IsProper) (fitsToo : second.2.IsProper) :
    Preserves (fun state : Client × σ => state.1.IsProper) (onParts first second operation) := by
  rintro ⟨client, state⟩ proper
  obtain ⟨kept, keptToo⟩ := preserves (first.2, second.2, state) ⟨fits, fitsToo⟩
  rw [attempt_onParts]
  have fitsLast : (Held.object _).IsProper := keptToo
  have fitsFirst : (Held.object _).IsProper := kept
  exact (proper.put second.1 fitsLast).put first.1 fitsFirst

theorem onListing_preserves (name : String) {operation : ListingOperation σ α}
    (containers : Preserves (fun state => state.1.IsProper) operation.containers)
    (objects : Preserves (fun state => state.1.IsProper) operation.objects) :
    Preserves (fun state : Client × σ => state.1.IsProper) (onListing name operation) := by
  rintro ⟨client, state⟩ proper
  unfold onListing
  rw [Remote.attempt_bind, Remote.attempt_get]
  dsimp only
  split
  · next held => exact onPart_preserves name containers (proper name _ held) (client, state) proper
  · next held => exact onPart_preserves name objects (proper name _ held) (client, state) proper
  · exact proper

theorem withAccount_preserves (name : String) (operation : Account → Remote σ α) :
    Preserves (fun state : Client × σ => state.1.IsProper) (withAccount name operation) :=
  .bind .get fun _ => .bind (.ofExcept _) fun account => .onSecond (operation account)

end Client

/-! ## Calls -/

namespace Call

open Client

private theorem making_preserves (as : String) {made : Client → Except Error Held}
    (fits : ∀ client held, made client = .ok held → held.IsProper) :
    Preserves (fun state : Client × σ => state.1.IsProper) (making as made) := by
  rintro ⟨client, state⟩ proper
  unfold making
  rw [Remote.attempt_bind, Remote.attempt_get]
  dsimp only
  rw [Remote.attempt_bind, Remote.attempt_ofExcept]
  cases found : made client with
  | error error => exact proper
  | ok held => exact proper.put as (fits client held found)

private theorem switch_preserves (on name as : String) :
    Preserves (fun state : Client × σ => state.1.IsProper)
      ((Call.switch on name as).perform transport) := by
  unfold perform
  refine .bind .get fun _ => .bind (.ofExcept _) fun account => ?_
  rintro ⟨client, state⟩ proper
  rw [Remote.attempt_bind, Remote.attempt_ofExcept]
  cases switched : account.switch name with
  | error error => exact proper
  | ok other =>
      have fresh : other.cached = none := by
        unfold Account.switch at switched
        cases found : account.site.switch name with
        | error error =>
            rw [found] at switched
            exact nomatch switched
        | ok site =>
            rw [found] at switched
            cases switched
            rfl
      exact proper.put as (Handle.isProper_of_empty fresh)

private theorem copyTo_preserves (source target : String) (options : Options) :
    Preserves (fun state : Client × σ => state.1.IsProper)
      (copyTo transport source target options) :=
  .bind .get fun _ => .bind (.ofExcept _) fun object =>
    onHeld_preserves .object target (Mutation.copy object options).perform_preserves

private theorem moveTo_preserves (source target : String) (options deleteOptions : Options) :
    Preserves (fun state : Client × σ => state.1.IsProper)
      (moveTo transport source target options deleteOptions) := by
  rintro ⟨client, state⟩ proper
  unfold moveTo
  rw [Remote.attempt_bind, Remote.attempt_get]
  dsimp only
  rw [Remote.attempt_bind, Remote.attempt_ofExcept]
  cases from? : client.object source with
  | error error => exact proper
  | ok object =>
      dsimp only
      rw [Remote.attempt_bind, Remote.attempt_ofExcept]
      cases to? : client.object target with
      | error error => exact proper
      | ok other =>
          exact onParts_preserves (Object.move_preserves options deleteOptions)
            (proper.isProper_object from?) (proper.isProper_object to?) (client, state) proper

/-- No call keeps headers or ends a listing without an answer. -/
theorem perform_preserves (call : Call σ α) :
    Preserves (fun state : Client × σ => state.1.IsProper) (call.perform transport) := by
  cases call with
  | switch on name as => exact switch_preserves on name as
  | container on name as =>
      unfold perform
      refine making_preserves as fun client held made => ?_
      obtain ⟨account, -, ⟨⟩⟩ := ok_of_bind made
      exact Handle.isProper_of_empty rfl
  | object on name as =>
      unfold perform
      refine making_preserves as fun client held made => ?_
      obtain ⟨container, -, ⟨⟩⟩ := ok_of_bind made
      exact Handle.isProper_of_empty rfl
  | accountOf on as =>
      unfold perform
      refine making_preserves as fun client held made => ?_
      obtain ⟨container, -, ⟨⟩⟩ := ok_of_bind made
      exact Handle.isProper_of_empty rfl
  | containerOf on as =>
      unfold perform
      refine making_preserves as fun client held made => ?_
      obtain ⟨object, -, ⟨⟩⟩ := ok_of_bind made
      exact Handle.isProper_of_empty rfl
  | containers on beginning options as =>
      unfold perform
      refine making_preserves as fun client held made => ?_
      obtain ⟨account, -, ⟨⟩⟩ := ok_of_bind made
      exact Listing.isProper_containers account beginning options
  | objects on beginning options as =>
      unfold perform
      refine making_preserves as fun client held made => ?_
      obtain ⟨container, -, ⟨⟩⟩ := ok_of_bind made
      exact Listing.isProper_objects container beginning options
  | headers on =>
      unfold perform
      exact onHandle_preserves on Handle.headers_preserves
  | exists? on =>
      unfold perform
      exact onHandle_preserves on Handle.exists?_preserves
  | update on changed options =>
      unfold perform
      exact onHandle_preserves on (Mutation.update changed options).perform_preserves
  | invalidate on =>
      unfold perform
      exact onHandle_preserves on Handle.invalidate_preserves
  | createAccount on options =>
      exact onHeld_preserves .account on (Mutation.createAccount options).perform_preserves
  | createContainer on options =>
      exact onHeld_preserves .container on (Mutation.createContainer options).perform_preserves
  | ensureExists on => exact onHeld_preserves .container on Container.ensureExists_preserves
  | deleteContainer on options =>
      exact onHeld_preserves .container on (Mutation.deleteContainer options).perform_preserves
  | deleteObject on options =>
      exact onHeld_preserves .object on (Mutation.deleteObject options).perform_preserves
  | upload on body options =>
      exact onHeld_preserves .object on (Mutation.upload body options).perform_preserves
  | uploadFrom on producer options =>
      exact onHeld_preserves .object on (Mutation.write producer options).perform_preserves
  | download on options => exact onHeld_preserves .object on (Object.download_preserves options)
  | copy source target options => exact copyTo_preserves source target options
  | move source target options deleteOptions =>
      exact moveTo_preserves source target options deleteOptions
  | capabilities on =>
      unfold perform
      exact withAccount_preserves on _
  | bulkDelete on doomed doomedToo options =>
      unfold perform
      exact .bind .get fun _ => .bind (.ofExcept _) fun _ => .bind (.ofExcept _) fun _ =>
        withAccount_preserves on _
  | bulkUpload on path format archive options =>
      unfold perform
      exact withAccount_preserves on _
  | request on raw =>
      unfold perform
      exact withAccount_preserves on _
  | nextPage on limit =>
      exact onListing_preserves on (.map _ (Listing.nextPage_preserves limit))
        (.map _ (Listing.nextPage_preserves limit))
  | nextPageDetailed on limit =>
      exact onListing_preserves on (.map _ (Listing.nextPageDetailed_preserves limit))
        (.map _ (Listing.nextPageDetailed_preserves limit))
  | collect on rounds =>
      exact onListing_preserves on
        (.map _ (Listing.collectPages_preserves (Listing.nextPage_preserves none) rounds))
        (.map _ (Listing.collectPages_preserves (Listing.nextPage_preserves none) rounds))
  | collectDetailed on rounds =>
      exact onListing_preserves on
        (.map _ (Listing.collectPages_preserves (Listing.nextPageDetailed_preserves none) rounds))
        (.map _ (Listing.collectPages_preserves (Listing.nextPageDetailed_preserves none) rounds))
  | foreach on visit rounds =>
      exact onListing_preserves on
        (Listing.visitPages_preserves (Listing.nextPage_preserves none) _ rounds)
        (Listing.visitPages_preserves (Listing.nextPage_preserves none) _ rounds)
  | foreachDetailed on visit rounds =>
      exact onListing_preserves on
        (Listing.visitPages_preserves (Listing.nextPageDetailed_preserves none) _ rounds)
        (Listing.visitPages_preserves (Listing.nextPageDetailed_preserves none) _ rounds)

theorem isProper_failures (transport : Transport σ) (calls : List (Sigma (Call σ)))
    (state : Client × σ) (proper : state.1.IsProper) :
    (failures transport calls state).2.1.IsProper := by
  unfold failures
  induction calls generalizing state with
  | nil => exact proper
  | cons call calls ih =>
      have kept : (failure? transport call state).2.1.IsProper := by
        have preserves : Preserves (fun state : Client × σ => state.1.IsProper)
            (call.2.perform transport) :=
          call.2.perform_preserves
        have kept := preserves state proper
        unfold failure?
        cases run : (call.2.perform transport).attempt state with
        | mk result reached =>
        rw [run] at kept
        cases result <;> exact kept
      rw [List.mapM_cons]
      exact ih _ kept

end Call

end ObjectStorage
