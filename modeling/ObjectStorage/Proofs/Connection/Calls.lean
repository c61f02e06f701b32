import ObjectStorage.Client.Call
import ObjectStorage.Proofs.Cache.Calls
import ObjectStorage.Proofs.Connection.Through

/-!
# Runs of a client

Calls on a client, one after the other, and what each of them failed with.  All that they do goes
through the transport if what the caller does with the items of a listing does.
-/

namespace ObjectStorage

open Remote (Through)

variable {σ α τ : Type} {transport : Transport σ} {own : AuthFault → Prop}

/-! ## Parts of a client -/

namespace Client

theorem onPart_through (name : String) (hold : τ → Held) (part : τ)
    {operation : Remote (τ × σ) α} (through : Through transport Prod.snd own operation) :
    Through transport Prod.snd own (onPart name hold part operation) := by
  rintro ⟨client, state⟩
  obtain ⟨sends, answers, faults⟩ := through (part, state)
  rw [attempt_onPart]
  exact ⟨sends, answers, faults⟩

theorem onParts_through (first second : String × Object)
    {operation : Remote (Object × Object × σ) Unit}
    (through : Through transport (fun state => state.2.2) own operation) :
    Through transport Prod.snd own (onParts first second operation) := by
  rintro ⟨client, state⟩
  obtain ⟨sends, answers, faults⟩ := through (first.2, second.2, state)
  rw [attempt_onParts]
  exact ⟨sends, answers, faults⟩

theorem noHandle_through (name : String) :
    Through transport Prod.snd own (noHandle name : Remote (Client × σ) α) :=
  .throw nofun

theorem onHandle_through (name : String) {operation : {kind : Kind} → Remote (Handle kind × σ) α}
    (through : ∀ {kind : Kind},
      Through transport Prod.snd own (operation : Remote (Handle kind × σ) α)) :
    Through transport Prod.snd own (onHandle name operation) := by
  refine .bind .get ?_
  rintro ⟨client, state⟩
  dsimp only
  split
  · exact onPart_through _ _ _ through
  · exact onPart_through _ _ _ through
  · exact onPart_through _ _ _ through
  · exact noHandle_through name

theorem onHeld_through (slot : Slot τ) (name : String) {operation : Remote (τ × σ) α}
    (through : Through transport Prod.snd own operation) :
    Through transport Prod.snd own (onHeld slot name operation) := by
  refine .bind .get ?_
  rintro ⟨client, state⟩
  dsimp only
  split
  · exact onPart_through _ _ _ through
  · exact noHandle_through name

theorem onListing_through (name : String) {operation : ListingOperation σ α}
    (containers : Through transport Prod.snd own operation.containers)
    (objects : Through transport Prod.snd own operation.objects) :
    Through transport Prod.snd own (onListing name operation) := by
  refine .bind .get ?_
  rintro ⟨client, state⟩
  dsimp only
  split
  · exact onPart_through _ _ _ containers
  · exact onPart_through _ _ _ objects
  · exact noHandle_through name

theorem isPlain_find (client : Client) (slot : Slot τ) (name : String) :
    IsPlain (client.find slot name) := by
  unfold find
  split
  · exact .ok _
  · exact .error nofun

theorem withAccount_through (name : String) {operation : Account → Remote σ α}
    (through : ∀ account, Through transport id own (operation account)) :
    Through transport Prod.snd own (withAccount name operation) :=
  .bind .get fun _ => .bind (.ofExcept (isPlain_find _ .account name)) fun account =>
    .onSecond (through account)

end Client

theorem Site.isPlain_ofEndpoint (endpoint : Url) (settings : Settings) :
    IsPlain (Site.ofEndpoint endpoint settings) := by
  unfold Site.ofEndpoint
  split
  · exact .ok _
  · exact .error nofun

private theorem Site.isPlain_switch (site : Site) (account : String) :
    IsPlain (site.switch account) :=
  .bind (.mapError _ nofun) fun endpoint => isPlain_ofEndpoint endpoint site.settings

/-! ## Calls -/

namespace Call

open Client

/-- Whether what the caller does with the items of a listing goes through the transport. -/
def VisitsThrough (transport : Transport σ) : {α : Type} → Call σ α → Prop
  | _, foreach _ visit _ | _, foreachDetailed _ visit _ =>
      ∀ item state, ∃ sends, transport.Answers sends state ((visit item).attempt state).2
  | _, _ => True

/-- The errors that the caller's own code can end with in the course of a call. -/
inductive Raises (error : Error) : {α : Type} → Call σ α → Prop
  | writer {on : String} {producer : Producer} {options : Options} {writes : List Write}
      (wrote : producer.Wrote writes (.finish (.error error))) :
      Raises error (.uploadFrom on producer options)
  | visit {on : String} {visit : Item → Remote σ Unit} {rounds : Nat} {item : Item} {state next : σ}
      (visited : (visit item).attempt state = (.error error, next)) :
      Raises error (.foreach on visit rounds)
  | visitDetailed {on : String} {visit : Item → Remote σ Unit} {rounds : Nat} {item : Item}
      {state next : σ} (visited : (visit item).attempt state = (.error error, next)) :
      Raises error (.foreachDetailed on visit rounds)

private theorem making_through (as : String) {made : Client → Except Error Held}
    (plain : ∀ client, IsPlain (made client)) :
    Through transport Prod.snd own (making as made : Remote (Client × σ) Unit) :=
  .bind .get fun _ => .bind (.ofExcept (plain _)) fun _ => .modify fun _ => rfl

private theorem copyTo_through (source target : String) (options : Options) :
    Through transport Prod.snd own (copyTo transport source target options) :=
  .bind .get fun _ => .bind (.ofExcept (isPlain_find _ .object source)) fun source =>
    onHeld_through .object target (Object.copyFrom_through source options)

private theorem moveTo_through (source target : String) (options deleteOptions : Options) :
    Through transport Prod.snd own (moveTo transport source target options deleteOptions) := by
  refine .bind .get ?_
  rintro ⟨client, state⟩
  exact .bind (.ofExcept (isPlain_find client .object source)) fun _ =>
    .bind (.ofExcept (isPlain_find client .object target)) fun _ =>
      onParts_through _ _ (Object.move_through options deleteOptions)

private theorem isPlain_below {κ τ : Type} (client : Client) (on : κ → String)
    (below : Account → κ → τ) (items : List κ) :
    IsPlain (items.mapM fun item => do return below (← client.account (on item)) item) :=
  .mapM fun item => .bind (isPlain_find client .account (on item)) fun _ => .ok _

theorem perform_through {call : Call σ α} (visits : call.VisitsThrough transport) :
    Through transport Prod.snd (fun fault => call.Raises (.auth fault))
      (call.perform transport) := by
  cases call with
  | switch on name as =>
      refine .bind .get fun _ => .bind (.ofExcept (isPlain_find _ .account on)) fun account => ?_
      refine .bind (.ofExcept (.map _ (account.site.isPlain_switch name))) fun _ => ?_
      exact .bind (.modify fun _ => rfl) fun _ => .pure _
  | container on name as =>
      unfold perform
      refine making_through as fun client => ?_
      exact .bind (isPlain_find client .account on) fun _ => .ok _
  | object on name as =>
      unfold perform
      refine making_through as fun client => ?_
      exact .bind (isPlain_find client .container on) fun _ => .ok _
  | accountOf on as =>
      unfold perform
      refine making_through as fun client => ?_
      exact .bind (isPlain_find client .container on) fun _ => .ok _
  | containerOf on as =>
      unfold perform
      refine making_through as fun client => ?_
      exact .bind (isPlain_find client .object on) fun _ => .ok _
  | containers on beginning options as =>
      unfold perform
      refine making_through as fun client => ?_
      exact .bind (isPlain_find client .account on) fun _ => .ok _
  | objects on beginning options as =>
      unfold perform
      refine making_through as fun client => ?_
      exact .bind (isPlain_find client .container on) fun _ => .ok _
  | headers on => exact onHandle_through on Handle.headers_through
  | exists? on => exact onHandle_through on Handle.exists?_through
  | update on changed options => exact onHandle_through on (Handle.change_through _ _ _)
  | invalidate on => exact onHandle_through on Handle.invalidate_through
  | createAccount on options => exact onHeld_through .account on (Handle.change_through _ _ _)
  | createContainer on options => exact onHeld_through .container on (Handle.change_through _ _ _)
  | ensureExists on => exact onHeld_through .container on Container.ensureExists_through
  | deleteContainer on options => exact onHeld_through .container on (Handle.change_through _ _ _)
  | deleteObject on options => exact onHeld_through .object on (Handle.change_through _ _ _)
  | upload on body options => exact onHeld_through .object on (Object.upload_through body options)
  | uploadFrom on producer options =>
      refine onHeld_through .object on ((Object.uploadFrom_through producer options).mono ?_)
      rintro fault ⟨writes, wrote⟩
      exact .writer wrote
  | download on options => exact onHeld_through .object on (Object.download_through options)
  | copy source target options => exact copyTo_through source target options
  | move source target options deleteOptions =>
      exact moveTo_through source target options deleteOptions
  | capabilities on => exact withAccount_through on Account.capabilities_through
  | bulkDelete on doomed doomedToo options =>
      refine .bind .get ?_
      rintro ⟨client, state⟩
      exact .bind (.ofExcept (isPlain_below client _ _ doomed)) fun _ =>
        .bind (.ofExcept (isPlain_below client _ _ doomedToo)) fun _ =>
          withAccount_through on fun _ => Account.bulkDelete_through _ _ _ _
  | bulkUpload on path format archive options =>
      exact withAccount_through on fun _ => Account.bulkUpload_through _ _ _ _ _
  | request on raw => exact withAccount_through on fun _ => raw.execute_through _
  | nextPage on limit =>
      exact onListing_through on (.map _ (Listing.nextPage_through limit))
        (.map _ (Listing.nextPage_through limit))
  | nextPageDetailed on limit =>
      exact onListing_through on (.map _ (Listing.nextPageDetailed_through limit))
        (.map _ (Listing.nextPageDetailed_through limit))
  | collect on rounds =>
      exact onListing_through on
        (.map _ (Listing.collectPages_through (Listing.nextPage_through none) rounds))
        (.map _ (Listing.collectPages_through (Listing.nextPage_through none) rounds))
  | collectDetailed on rounds =>
      exact onListing_through on
        (.map _ (Listing.collectPages_through (Listing.nextPageDetailed_through none) rounds))
        (.map _ (Listing.collectPages_through (Listing.nextPageDetailed_through none) rounds))
  | foreach on visit rounds =>
      have through : ∀ item, Through transport id
          (fun fault => (foreach on visit rounds).Raises (.auth fault)) (visit item) := by
        intro item state
        obtain ⟨sends, answers⟩ := visits item state
        exact ⟨sends, answers, fun fault failed => .inl (.visit (Prod.ext failed rfl))⟩
      exact onListing_through on
        (Listing.visitPages_through (Listing.nextPage_through none) (fun _ => through _) rounds)
        (Listing.visitPages_through (Listing.nextPage_through none) (fun _ => through _) rounds)
  | foreachDetailed on visit rounds =>
      have through : ∀ item, Through transport id
          (fun fault => (foreachDetailed on visit rounds).Raises (.auth fault)) (visit item) := by
        intro item state
        obtain ⟨sends, answers⟩ := visits item state
        exact ⟨sends, answers, fun fault failed => .inl (.visitDetailed (Prod.ext failed rfl))⟩
      exact onListing_through on
        (Listing.visitPages_through (Listing.nextPageDetailed_through none) (fun _ => through _)
          rounds)
        (Listing.visitPages_through (Listing.nextPageDetailed_through none) (fun _ => through _)
          rounds)

/-! ## Runs -/

def failure? (transport : Transport σ) (call : Sigma (Call σ)) :
    StateM (Client × σ) (Option Error) := fun state =>
  match (call.2.perform transport).attempt state with
  | (.ok _, state) => (none, state)
  | (.error error, state) => (some error, state)

def failures (transport : Transport σ) (calls : List (Sigma (Call σ))) :
    StateM (Client × σ) (List (Option Error)) :=
  calls.mapM (failure? transport)

private theorem failure?_through {call : Sigma (Call σ)} (visits : call.2.VisitsThrough transport)
    (client : Client) (state : σ) :
    ∃ failure sends after last,
      failure? transport call (client, state) = (failure, (after, last)) ∧
      transport.Answers sends state last ∧
      ∀ fault, failure = some (.auth fault) →
        call.2.Raises (.auth fault) ∨ Gave sends (.auth fault) := by
  obtain ⟨sends, answers, faults⟩ := perform_through visits (client, state)
  unfold failure?
  cases run : (call.2.perform transport).attempt (client, state) with
  | mk result reached =>
  rw [run] at answers faults
  cases result with
  | ok value => exact ⟨none, sends, reached.1, reached.2, rfl, answers, nofun⟩
  | error error =>
      refine ⟨some error, sends, reached.1, reached.2, rfl, answers, ?_⟩
      rintro fault ⟨⟩
      exact faults fault rfl

theorem failures_through {calls : List (Sigma (Call σ))}
    (visits : ∀ call ∈ calls, call.2.VisitsThrough transport) (client : Client) (state : σ) :
    ∃ run sends after last,
      failures transport calls (client, state) = (run, (after, last)) ∧
      transport.Answers sends state last ∧
      ∀ fault, some (.auth fault) ∈ run →
        (∃ call ∈ calls, call.2.Raises (.auth fault)) ∨ Gave sends (.auth fault) := by
  unfold failures
  induction calls generalizing client state with
  | nil => exact ⟨[], [], client, state, rfl, rfl, fun fault failed => nomatch failed⟩
  | cons call calls ih =>
      obtain ⟨failure, sends, after, last, run, answers, faults⟩ :=
        failure?_through (visits call (List.mem_cons_self ..)) client state
      obtain ⟨others, more, final, reached, rest, going, faultsAfter⟩ :=
        ih (fun other hother => visits other (List.mem_cons_of_mem _ hother)) after last
      refine ⟨failure :: others, sends ++ more, final, reached, ?_, answers.append going, ?_⟩
      · simp only [List.mapM_cons, bind, StateT.bind, run, rest]
        rfl
      · intro fault failed
        rcases List.mem_cons.mp failed with first | among
        · rcases faults fault first.symm with raised | gave
          · exact .inl ⟨call, List.mem_cons_self .., raised⟩
          · exact .inr gave.append_left
        · rcases faultsAfter fault among with ⟨other, hother, raised⟩ | gave
          · exact .inl ⟨other, List.mem_cons_of_mem _ hother, raised⟩
          · exact .inr gave.append_right

end Call

end ObjectStorage
