import ObjectStorage.Client.Call
import ObjectStorage.Proofs.Cache.Handles

/-!
# What calls do to a client

The calls on handles, and the ways in which each can end for the client that holds them.
-/

namespace ObjectStorage

/-- What is held under a name when a handle is. -/
def Held.ofHandle {kind : Kind} (handle : Handle kind) : Held :=
  match kind, handle with
  | .account, handle => .account handle
  | .container, handle => .container handle
  | .object, handle => .object handle

/-- The calls that may fetch, change or drop the headers of a handle. -/
inductive HandleCall where
  | headers (on : String)
  | exists? (on : String)
  | update (on : String) (headers : Headers) (options : Options)
  | createAccount (on : String) (options : Options)
  | createContainer (on : String) (options : Options)
  | ensureExists (on : String)
  | deleteContainer (on : String) (options : Options)
  | deleteObject (on : String) (options : Options)
  | upload (on : String) (body : Body) (options : Options)
  | download (on : String) (options : Options)
  | copy (source target : String) (options : Options)
  /-- Both handles are lent to the call, so that they are two. -/
  | move (source target : String) (distinct : source ≠ target) (options deleteOptions : Options)
  | invalidate (on : String)

inductive Answer where
  | done
  | headers (headers : Headers)
  | found (found : Bool)
  | content (download : Object.Download)

namespace HandleCall

variable {σ : Type}

def perform (transport : Transport σ) : HandleCall → Remote (Client × σ) Answer
  | headers on => Answer.headers <$> (Call.headers on).perform transport
  | exists? on => Answer.found <$> (Call.exists? on).perform transport
  | update on changed options =>
      (fun _ => .done) <$> (Call.update on changed options).perform transport
  | createAccount on options =>
      (fun _ => .done) <$> (Call.createAccount on options).perform transport
  | createContainer on options =>
      (fun _ => .done) <$> (Call.createContainer on options).perform transport
  | ensureExists on => (fun _ => .done) <$> (Call.ensureExists on).perform transport
  | deleteContainer on options =>
      (fun _ => .done) <$> (Call.deleteContainer on options).perform transport
  | deleteObject on options => (fun _ => .done) <$> (Call.deleteObject on options).perform transport
  | upload on body options => (fun _ => .done) <$> (Call.upload on body options).perform transport
  | download on options => Answer.content <$> (Call.download on options).perform transport
  | copy source target options =>
      (fun _ => .done) <$> (Call.copy source target options).perform transport
  | move source target _ options deleteOptions =>
      (fun _ => .done) <$> (Call.move source target options deleteOptions).perform transport
  | invalidate on => (fun _ => .done) <$> (Call.invalidate on).perform transport

/-- The calls that change what a handle denotes by one request, which the statuses accept. -/
inductive Changes : HandleCall → String → Kind → Http.Method → List Http.Status → Prop
  | update {on : String} {headers : Headers} {options : Options} {kind : Kind} :
      Changes (.update on headers options) on kind .post (Handle.updateStatuses kind)
  | createAccount {on : String} {options : Options} :
      Changes (.createAccount on options) on .account .put [.created, .accepted]
  | createContainer {on : String} {options : Options} :
      Changes (.createContainer on options) on .container .put [.created, .accepted]
  | deleteContainer {on : String} {options : Options} :
      Changes (.deleteContainer on options) on .container .delete [.noContent]
  | deleteObject {on : String} {options : Options} :
      Changes (.deleteObject on options) on .object .delete [.noContent]

end HandleCall

structure Entry where
  call : HandleCall
  result : Except Error Answer
  sends : Sends

open Handle Container Object in
/-- What a call does to a client. -/
inductive Happens (client : Client) : Entry → Client → Prop
  | missing {call : HandleCall} {fault : RequestFault}
      (absent : ∀ name, call = .headers name →
        ∀ {kind : Kind} (handle : Handle kind), client.get? name ≠ some (.ofHandle handle)) :
      Happens client ⟨call, .error (.invalidRequest fault), []⟩ client
  | headers {name : String} {kind : Kind} {handle after : Handle kind}
      {result : Except Error Headers} {sends : Sends}
      (held : client.get? name = some (.ofHandle handle))
      (looked : LookedUp handle result sends after) :
      Happens client ⟨.headers name, result.map .headers, sends⟩ (client.put name (.ofHandle after))
  | exists? {name : String} {kind : Kind} {handle after : Handle kind}
      {result : Except Error Headers} {sends : Sends}
      (held : client.get? name = some (.ofHandle handle))
      (looked : LookedUp handle result sends after) :
      Happens client ⟨.exists? name, (foundBy result).map .found, sends⟩
        (client.put name (.ofHandle after))
  | changed {call : HandleCall} {name : String} {kind : Kind} {method : Http.Method}
      {expected : List Http.Status} {handle after : Handle kind} {result : Except Error Unit}
      {sends : Sends} (changes : call.Changes name kind method expected)
      (held : client.get? name = some (.ofHandle handle))
      (changed : Changed handle method expected result sends after) :
      Happens client ⟨call, result.map fun _ => .done, sends⟩ (client.put name (.ofHandle after))
  | ensured {name : String} {container after : Container} {result : Except Error Unit}
      {sends : Sends} (held : client.get? name = some (.container container))
      (ensured : Ensured container result sends after) :
      Happens client ⟨.ensureExists name, result.map fun _ => .done, sends⟩
        (client.put name (.container after))
  | uploaded {name : String} {body : Body} {options : Options} {object after : Object}
      {result : Except Error Unit} {sends : Sends}
      (held : client.get? name = some (.object object))
      (stored : Stored object result sends after) :
      Happens client ⟨.upload name body options, result.map fun _ => .done, sends⟩
        (client.put name (.object after))
  | downloaded {name : String} {options : Options} {object after : Object}
      {result : Except Error Download} {sends : Sends}
      (held : client.get? name = some (.object object))
      (downloaded : Downloaded object result sends after) :
      Happens client ⟨.download name options, result.map .content, sends⟩
        (client.put name (.object after))
  | copied {source target : String} {options : Options} {object after : Object}
      {result : Except Error Unit} {sends : Sends}
      (held : client.get? target = some (.object object))
      (copied : Copied object result sends after) :
      Happens client ⟨.copy source target options, result.map fun _ => .done, sends⟩
        (client.put target (.object after))
  | moved {source target : String} {distinct : source ≠ target} {options deleteOptions : Options}
      {object other left reached : Object} {result : Except Error Unit} {sends : Sends}
      (held : client.get? source = some (.object object))
      (heldOther : client.get? target = some (.object other))
      (moved : Moved object other result sends left reached) :
      Happens client
        ⟨.move source target distinct options deleteOptions, result.map fun _ => .done, sends⟩
        ((client.put target (.object reached)).put source (.object left))
  | invalidated {name : String} {kind : Kind} {handle : Handle kind}
      (held : client.get? name = some (.ofHandle handle)) :
      Happens client ⟨.invalidate name, .ok .done, []⟩
        (client.put name (.ofHandle handle.invalidated))

namespace Client

variable {σ α τ : Type} {client : Client} {name : String}

/-! ## Operations on what is held -/

theorem attempt_onPart (hold : τ → Held) (part : τ) (operation : Remote (τ × σ) α)
    (client : Client) (state : σ) :
    (onPart name hold part operation).attempt (client, state) =
      ((operation.attempt (part, state)).1,
        (client.put name (hold (operation.attempt (part, state)).2.1),
          (operation.attempt (part, state)).2.2)) := by
  cases h : operation (part, state) <;> simp [Remote.attempt, onPart, h]

theorem attempt_onHandle {kind : Kind} {handle : Handle kind}
    (held : client.get? name = some (.ofHandle handle))
    (operation : {kind : Kind} → Remote (Handle kind × σ) α) (state : σ) :
    (onHandle name operation).attempt (client, state) =
      ((operation.attempt (handle, state)).1,
        (client.put name (.ofHandle (operation.attempt (handle, state)).2.1),
          (operation.attempt (handle, state)).2.2)) := by
  unfold onHandle
  rw [Remote.attempt_bind, Remote.attempt_get]
  cases kind
  all_goals
    simp only [held, Held.ofHandle]
    exact attempt_onPart _ handle operation client state

theorem onHandle_missing
    (absent : ∀ {kind : Kind} (handle : Handle kind), client.get? name ≠ some (.ofHandle handle))
    (operation : {kind : Kind} → Remote (Handle kind × σ) α) (state : σ) :
    ∃ fault, (onHandle name operation).attempt (client, state) =
      (.error (.invalidRequest fault), (client, state)) := by
  unfold onHandle
  rw [Remote.attempt_bind, Remote.attempt_get]
  dsimp only
  split
  · next handle h => exact absurd h (absent handle)
  · next handle h => exact absurd h (absent handle)
  · next handle h => exact absurd h (absent handle)
  · exact ⟨_, rfl⟩

theorem handle_cases (client : Client) (name : String) :
    (∃ (kind : Kind) (handle : Handle kind), client.get? name = some (.ofHandle handle)) ∨
      ∀ {kind : Kind} (handle : Handle kind), client.get? name ≠ some (.ofHandle handle) := by
  by_cases h : ∃ (kind : Kind) (handle : Handle kind), client.get? name = some (.ofHandle handle)
  · exact .inl h
  · exact .inr fun {kind} handle held => h ⟨kind, handle, held⟩

theorem bind_held?_cases (client : Client) (slot : Slot τ) (name : String) :
    (∃ part, client.get? name = some (slot.hold part) ∧
        (client.get? name).bind slot.held? = some part) ∨
      (client.get? name).bind slot.held? = none := by
  cases found : (client.get? name).bind slot.held? with
  | none => exact .inr rfl
  | some part =>
      obtain ⟨held, get, same⟩ := Option.bind_eq_some_iff.mp found
      rw [get, slot.held?_eq_some_iff.mp same]
      exact .inl ⟨part, rfl, rfl⟩

theorem find_cases (client : Client) (slot : Slot τ) (name : String) :
    (∃ part, client.get? name = some (slot.hold part) ∧ client.find slot name = .ok part) ∨
      ∃ fault, client.find slot name = .error (.invalidRequest fault) := by
  unfold find
  rcases bind_held?_cases client slot name with ⟨part, held, found⟩ | absent
  · rw [found]
    exact .inl ⟨part, held, rfl⟩
  · rw [absent]
    exact .inr ⟨_, rfl⟩

theorem onHeld_cases (slot : Slot τ) (client : Client) (name : String)
    (operation : Remote (τ × σ) α) (state : σ) :
    (∃ part, client.get? name = some (slot.hold part) ∧
        (onHeld slot name operation).attempt (client, state) =
          (onPart name slot.hold part operation).attempt (client, state)) ∨
      ∃ fault, (onHeld slot name operation).attempt (client, state) =
        (.error (.invalidRequest fault), (client, state)) := by
  unfold onHeld
  rw [Remote.attempt_bind, Remote.attempt_get]
  dsimp only
  rcases bind_held?_cases client slot name with ⟨part, held, found⟩ | absent
  · rw [found]
    exact .inl ⟨part, held, rfl⟩
  · rw [absent]
    exact .inr ⟨_, rfl⟩

theorem attempt_onParts (first second : String × Object)
    (operation : Remote (Object × Object × σ) Unit) (client : Client) (state : σ) :
    (onParts first second operation).attempt (client, state) =
      match operation.attempt (first.2, second.2, state) with
      | (result, (one, two, state)) =>
        (result, ((client.put second.1 (.object two)).put first.1 (.object one), state)) := by
  cases h : operation (first.2, second.2, state) <;> simp [Remote.attempt, onParts, h]

end Client

namespace HandleCall

open Client

variable {σ : Type} (transport : Transport σ) (client : Client) (state : σ)

def Does (transport : Transport σ) (client : Client) (state : σ) (call : HandleCall) : Prop :=
  ∃ result events last after,
    (call.perform transport.observed).attempt (client, ([], state)) =
      (result, (after, (events, last))) ∧
    Happens client ⟨call, result, Observation.sends events⟩ after

private theorem does_headers (name : String) : Does transport client state (.headers name) := by
  rcases handle_cases client name with ⟨kind, handle, held⟩ | absent
  · obtain ⟨result, new, last, after, run, looked⟩ := Handle.headers_lookedUp transport [] state
      handle
    refine ⟨_, new, last, _, ?_, .headers held looked⟩
    rw [perform, Call.perform, Remote.attempt_map, attempt_onHandle held, run]
    rfl
  · obtain ⟨fault, run⟩ := onHandle_missing absent (Handle.headers transport.observed) ([], state)
    refine ⟨.error (.invalidRequest fault), [], state, client, ?_, .missing ?_⟩
    · rw [perform, Call.perform, Remote.attempt_map, run]
      rfl
    · intro other hcall
      cases hcall
      exact absent

private theorem does_exists? (name : String) : Does transport client state (.exists? name) := by
  rcases handle_cases client name with ⟨kind, handle, held⟩ | absent
  · obtain ⟨result, new, last, after, run, looked⟩ := Handle.headers_lookedUp transport [] state
      handle
    refine ⟨_, new, last, _, ?_, .exists? held looked⟩
    rw [perform, Call.perform, Remote.attempt_map, attempt_onHandle held, Handle.attempt_exists?,
      run]
    rfl
  · obtain ⟨fault, run⟩ := onHandle_missing absent (Handle.exists? transport.observed) ([], state)
    refine ⟨.error (.invalidRequest fault), [], state, client, ?_, .missing nofun⟩
    rw [perform, Call.perform, Remote.attempt_map, run]
    rfl

private theorem does_update (name : String) (headers : Headers) (options : Options) :
    Does transport client state (.update name headers options) := by
  rcases handle_cases client name with ⟨kind, handle, held⟩ | absent
  · have hne : Handle.updateStatuses kind ≠ [] := by cases kind <;> nofun
    obtain ⟨result, new, last, after, run, changed⟩ :=
      Handle.change_changed transport [] state handle .post (options.extend headers) hne
    refine ⟨_, new, last, _, ?_, .changed .update held changed⟩
    rw [perform, Call.perform, Remote.attempt_map, attempt_onHandle held, Handle.update, run]
    rfl
  · obtain ⟨fault, run⟩ :=
      onHandle_missing absent (Handle.update transport.observed headers options) ([], state)
    refine ⟨.error (.invalidRequest fault), [], state, client, ?_, .missing nofun⟩
    rw [perform, Call.perform, Remote.attempt_map, run]
    rfl

theorem does_of_cases {α τ : Type} {call : HandleCall} {name : String} {hold : τ → Held}
    {answer : α → Answer} {whole : Remote (Client × List Observation × σ) α}
    {operation : Remote (τ × List Observation × σ) α}
    (cases : (∃ part, client.get? name = some (hold part) ∧
        whole.attempt (client, ([], state)) =
          (onPart name hold part operation).attempt (client, ([], state))) ∨
      ∃ fault, whole.attempt (client, ([], state)) =
        (.error (.invalidRequest fault), (client, ([], state))))
    (performs : call.perform transport.observed = answer <$> whole)
    (other : ∀ name, call ≠ .headers name)
    (happens : ∀ part, client.get? name = some (hold part) → ∃ result new last after,
      operation.attempt (part, ([], state)) = (result, (after, (new, last))) ∧
        Happens client ⟨call, result.map answer, Observation.sends new⟩
          (client.put name (hold after))) :
    Does transport client state call := by
  rcases cases with ⟨part, held, same⟩ | ⟨fault, absent⟩
  · obtain ⟨result, new, last, after, run, happens⟩ := happens part held
    refine ⟨_, new, last, _, ?_, happens⟩
    rw [performs, Remote.attempt_map, same, attempt_onPart, run]
  · refine ⟨.error (.invalidRequest fault), [], state, client, ?_, .missing ?_⟩
    · rw [performs, Remote.attempt_map, absent]
      rfl
    · intro name same
      exact absurd same (other name)

private theorem does_of_changes {kind : Kind} {call : HandleCall} {name : String}
    {method : Http.Method} {expected : List Http.Status} (options : Options)
    (slot : Slot (Handle kind)) (holds : ∀ handle, slot.hold handle = .ofHandle handle)
    (changes : call.Changes name kind method expected)
    (performs : call.perform transport.observed = (fun _ => .done) <$>
      onHeld slot name (Handle.change transport.observed method options expected)) :
    Does transport client state call := by
  have some : expected ≠ [] := by
    cases changes with
    | update => cases kind <;> nofun
    | _ => nofun
  refine does_of_cases transport client state (onHeld_cases slot client name _ _) performs ?_ ?_
  · rintro name rfl
    nomatch changes
  · intro handle held
    obtain ⟨result, new, last, after, run, changed⟩ :=
      Handle.change_changed transport [] state handle method options some
    refine ⟨result, new, last, after, run, ?_⟩
    rw [holds] at held ⊢
    exact .changed changes held changed

private theorem does_ensureExists (name : String) :
    Does transport client state (.ensureExists name) := by
  refine does_of_cases transport client state (onHeld_cases .container client name _ _) rfl
    (fun _ => nofun) ?_
  intro container held
  obtain ⟨result, new, last, after, run, ensured⟩ :=
    Container.ensureExists_ensured transport [] state container
  exact ⟨result, new, last, after, run, .ensured held ensured⟩

private theorem does_upload (name : String) (body : Body) (options : Options) :
    Does transport client state (.upload name body options) := by
  refine does_of_cases transport client state (onHeld_cases .object client name _ _) rfl
    (fun _ => nofun) ?_
  intro object held
  obtain ⟨result, new, last, after, run, stored⟩ :=
    Object.upload_stored transport [] state object body options
  exact ⟨result, new, last, after, run, .uploaded held stored⟩

private theorem does_download (name : String) (options : Options) :
    Does transport client state (.download name options) := by
  refine does_of_cases transport client state (onHeld_cases .object client name _ _) rfl
    (fun _ => nofun) ?_
  intro object held
  obtain ⟨result, new, last, after, run, downloaded⟩ :=
    Object.download_downloaded transport [] state object options
  exact ⟨result, new, last, after, run, .downloaded held downloaded⟩

private theorem does_copy (source target : String) (options : Options) :
    Does transport client state (.copy source target options) := by
  rcases find_cases client .object source with ⟨object, -, hsource⟩ | ⟨fault, hsource⟩
  · have same : (Call.copyTo transport.observed source target options).attempt
          (client, ([], state)) =
        (onHeld .object target (Object.copyFrom transport.observed object options)).attempt
          (client, ([], state)) := by
      unfold Call.copyTo
      rw [Remote.attempt_bind, Remote.attempt_get]
      dsimp only
      rw [Remote.attempt_bind, Remote.attempt_ofExcept, Client.object, hsource]
    have cases := onHeld_cases .object client target
      (Object.copyFrom transport.observed object options) ([], state)
    rw [← same] at cases
    refine does_of_cases transport client state cases rfl (fun _ => nofun) ?_
    intro reached held
    obtain ⟨result, new, last, after, run, copied⟩ :=
      Object.copyFrom_copied transport [] state object reached options
    exact ⟨result, new, last, after, run, .copied held copied⟩
  · refine ⟨.error (.invalidRequest fault), [], state, client, ?_, .missing nofun⟩
    rw [perform, Call.perform, Remote.attempt_map, Call.copyTo, Remote.attempt_bind,
      Remote.attempt_get]
    dsimp only
    rw [Remote.attempt_bind, Remote.attempt_ofExcept, Client.object, hsource]
    rfl

private theorem does_move (source target : String) (distinct : source ≠ target)
    (options deleteOptions : Options) :
    Does transport client state (.move source target distinct options deleteOptions) := by
  unfold Does perform Call.perform Call.moveTo
  rw [Remote.attempt_map, Remote.attempt_bind, Remote.attempt_get]
  dsimp only
  rw [Remote.attempt_bind, Remote.attempt_ofExcept]
  rcases find_cases client .object source with ⟨object, held, hsource⟩ | ⟨fault, hsource⟩
  · rw [Client.object, hsource]
    dsimp only
    rw [Remote.attempt_bind, Remote.attempt_ofExcept]
    rcases find_cases client .object target with ⟨other, heldOther, htarget⟩ | ⟨fault, htarget⟩
    · obtain ⟨result, new, last, left, reached, run, moved⟩ :=
        Object.move_moved transport [] state object other options deleteOptions
      rw [Client.object, htarget]
      dsimp only
      rw [attempt_onParts, run]
      exact ⟨_, new, last, _, rfl, .moved held heldOther moved⟩
    · rw [Client.object, htarget]
      exact ⟨.error (.invalidRequest fault), [], state, client, rfl, .missing nofun⟩
  · rw [Client.object, hsource]
    exact ⟨.error (.invalidRequest fault), [], state, client, rfl, .missing nofun⟩

private theorem does_invalidate (name : String) :
    Does transport client state (.invalidate name) := by
  rcases handle_cases client name with ⟨kind, handle, held⟩ | absent
  · refine ⟨.ok .done, [], state, _, ?_, .invalidated held⟩
    rw [perform, Call.perform, Remote.attempt_map, attempt_onHandle held]
    rfl
  · obtain ⟨fault, run⟩ := onHandle_missing absent Handle.invalidate ([], state)
    refine ⟨.error (.invalidRequest fault), [], state, client, ?_, .missing nofun⟩
    rw [perform, Call.perform, Remote.attempt_map, run]
    rfl

theorem does_call (call : HandleCall) : Does transport client state call := by
  cases call with
  | headers name => exact does_headers transport client state name
  | exists? name => exact does_exists? transport client state name
  | update name headers options => exact does_update transport client state name headers options
  | createAccount _ options =>
      exact does_of_changes transport client state options .account (fun _ => rfl)
        .createAccount rfl
  | createContainer _ options =>
      exact does_of_changes transport client state options .container (fun _ => rfl)
        .createContainer rfl
  | ensureExists name => exact does_ensureExists transport client state name
  | deleteContainer _ options =>
      exact does_of_changes transport client state options .container (fun _ => rfl)
        .deleteContainer rfl
  | deleteObject _ options =>
      exact does_of_changes transport client state options .object (fun _ => rfl)
        .deleteObject rfl
  | upload name body options => exact does_upload transport client state name body options
  | download name options => exact does_download transport client state name options
  | copy source target options => exact does_copy transport client state source target options
  | move source target distinct options deleteOptions =>
      exact does_move transport client state source target distinct options deleteOptions
  | invalidate name => exact does_invalidate transport client state name

end HandleCall

end ObjectStorage
