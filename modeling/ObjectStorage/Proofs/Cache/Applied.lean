import ObjectStorage.Account
import ObjectStorage.Proofs.Cache.Handles
import ObjectStorage.Proofs.Writer.Protocol

/-!
# Handles after an applied change

A server that answers a change with a status that is accepted has applied it.  The handle is
invalidated then, also if a checksum or a producer makes the change an error afterwards, but not if
the body of the answer cannot be read to its end.
-/

namespace ObjectStorage

/-- The changes that go through a handle; a copy changes its target. -/
inductive Mutation : Kind → Type
  | update {kind : Kind} (headers : Headers) (options : Options) : Mutation kind
  | createAccount (options : Options) : Mutation .account
  | createContainer (options : Options) : Mutation .container
  | deleteContainer (options : Options) : Mutation .container
  | deleteObject (options : Options) : Mutation .object
  | upload (body : Body) (options : Options) : Mutation .object
  | write (producer : Producer) (options : Options) : Mutation .object
  | copy (source : Object) (options : Options) : Mutation .object

namespace Mutation

variable {σ : Type} {kind : Kind}

def perform (transport : Transport σ) : Mutation kind → Remote (Handle kind × σ) Unit
  | .update headers options => Handle.update transport headers options
  | .createAccount options => Account.create transport options
  | .createContainer options => Container.create transport options
  | .deleteContainer options => Container.delete transport options
  | .deleteObject options => Object.delete transport options
  | .upload body options => Object.upload transport body options
  | .write producer options => Object.uploadFrom transport producer options
  | .copy source options => Object.copyFrom transport source options

/-- The statuses by which the server says that it has applied the change. -/
def statuses : Mutation kind → List Http.Status
  | .update _ _ => Handle.updateStatuses kind
  | .createAccount _ | .createContainer _ => [.created, .accepted]
  | .deleteContainer _ | .deleteObject _ => [.noContent]
  | .upload _ _ | .write _ _ | .copy _ _ => [.created]

def request : Mutation kind → Handle kind → Request
  | .update headers options, handle =>
      handle.request .post (options.extend headers) (Handle.updateStatuses kind)
  | .createAccount options, handle => handle.request .put options [.created, .accepted]
  | .createContainer options, handle => handle.request .put options [.created, .accepted]
  | .deleteContainer options, handle => handle.request .delete options [.noContent]
  | .deleteObject options, handle => handle.request .delete options [.noContent]
  | .upload body options, handle => Object.put handle body options
  | .write producer options, handle => Object.put handle (.stream producer.stream) options
  | .copy source options, handle =>
      source.request .copy (Object.copyOptions source handle options) [.created]

def endpoint : Mutation kind → Handle kind → Url
  | .copy source _, _ => source.site.endpoint
  | _, handle => handle.site.endpoint

private theorem expected_request (mutation : Mutation kind) (handle : Handle kind) :
    (mutation.request handle).expected = mutation.statuses := by
  cases mutation <;> rfl

private theorem drains_request (mutation : Mutation kind) (handle : Handle kind) :
    (mutation.request handle).drains = true := by
  cases mutation <;> rfl

end Mutation

namespace Handle

variable {σ : Type} {kind : Kind} {transport : Transport σ} {request : Request} {endpoint : Url}
  {handle : Handle kind} {state : σ}

/-- How a change ends, given what came of its request: only an answer that is taken counts. -/
inductive Performed (transport : Transport σ) (request : Request) (endpoint : Url)
    (handle : Handle kind) (state : σ) : Except Error Unit → Handle kind → σ → Prop
  | unsent {error : Error} : Performed transport request endpoint handle state (.error error)
      handle state
  | failed {error cause : Error} {pulled : Nat} {next : σ}
      (exchanged : request.exchange transport endpoint state = (⟨.error cause, pulled⟩, next)) :
      Performed transport request endpoint handle state (.error error) handle next
  | done {result : Except Error Unit} {response : Http.Response} {pulled : Nat} {next : σ}
      (exchanged : request.exchange transport endpoint state = (⟨.ok response, pulled⟩, next)) :
      Performed transport request endpoint handle state result handle.invalidated next

theorem performed_of_exchange {run : Except Error Unit × (Handle kind × σ)}
    (taken : ∀ response pulled next,
      request.exchange transport endpoint state = (⟨.ok response, pulled⟩, next) →
      ∃ result, run = (result, (handle.invalidated, next)))
    (failed : ∀ cause pulled next,
      request.exchange transport endpoint state = (⟨.error cause, pulled⟩, next) →
      ∃ error, run = (.error error, (handle, next))) :
    ∃ result after next, run = (result, (after, next)) ∧
      Performed transport request endpoint handle state result after next := by
  cases exchanged : request.exchange transport endpoint state with
  | mk exchange next =>
      obtain ⟨outcome, pulled⟩ := exchange
      cases outcome with
      | ok response =>
          obtain ⟨result, ran⟩ := taken response pulled next exchanged
          exact ⟨result, handle.invalidated, next, ran, .done exchanged⟩
      | error cause =>
          obtain ⟨error, ran⟩ := failed cause pulled next exchanged
          exact ⟨.error error, handle, next, ran, .failed exchanged⟩

theorem performed_change (transport : Transport σ) (handle : Handle kind) (method : Http.Method)
    (options : Options) (expected : List Http.Status) (state : σ) :
    ∃ result after next,
      (Handle.change transport method options expected).attempt (handle, state) =
        (result, (after, next)) ∧
      Performed transport (handle.request method options expected) handle.site.endpoint handle
        state result after next := by
  rw [attempt_change, Request.attempt_execute]
  apply performed_of_exchange
  · intro response pulled next exchanged
    rw [exchanged]
    exact ⟨.ok (), rfl⟩
  · intro cause pulled next exchanged
    rw [exchanged]
    exact ⟨cause, rfl⟩

/--
What an answer that reports the change leaves: the handle without headers if the body of the answer
can be read, and else the handle as it was.
-/
def Leaves (statuses : List Http.Status) (before after : Handle kind) (result : Except Error Unit)
    (send : Http.Request × Exchange) : Prop :=
  ∀ response, send.2.result = .ok response → response.status ∈ statuses →
    (response.body.drain = .ok () → after = before.invalidated) ∧
    ∀ error, response.body.drain = .error error →
      after = before ∧ ∃ reason, result = .error reason

theorem Performed.leaves_of_drains {events : List Observation} {result : Except Error Unit}
    {after : Handle kind} {reached : List Observation × σ}
    (performed : Performed transport.observed request endpoint handle (events, state) result after
      reached)
    (drains : request.drains = true) :
    ∃ new last, reached = (events ++ new, last) ∧
      ∀ send ∈ Observation.sends new,
        send.1.method = request.method ∧ Leaves request.expected handle after result send := by
  obtain ⟨outcome, new, last, run, executed⟩ :=
    Request.execute_executed transport request endpoint events state
  rw [Request.attempt_execute] at run
  cases performed with
  | unsent =>
      refine ⟨[], state, by rw [List.append_nil], ?_⟩
      intro send sent
      exact absurd sent List.not_mem_nil
  | failed exchanged =>
      rw [exchanged] at run
      obtain ⟨rfl, rfl⟩ := Prod.mk.inj run
      refine ⟨new, last, rfl, ?_⟩
      intro send sent
      generalize Observation.sends new = sends at executed sent
      cases executed with
      | unwritten => exact absurd sent List.not_mem_nil
      | unanswered written =>
          obtain rfl := List.mem_singleton.mp sent
          exact ⟨Request.method_of_written written, fun _ answered => by cases answered⟩
      | @refused _ message response pulled written refusal =>
          obtain rfl := List.mem_singleton.mp sent
          refine ⟨Request.method_of_written written, ?_⟩
          rintro response ⟨⟩ accepted
          -- An answer with an expected status is only refused because it cannot be drained.
          refine ⟨fun drained => absurd ⟨?_, fun _ => drained⟩ refusal.not_accepts,
            fun _ _ => ⟨rfl, _, rfl⟩⟩
          simp [Request.isExpected, accepted]
  | done exchanged =>
      rw [exchanged] at run
      obtain ⟨houtcome, rfl⟩ := Prod.mk.inj run
      refine ⟨new, last, rfl, ?_⟩
      intro send sent
      generalize Observation.sends new = sends at executed sent
      dsimp only at houtcome
      cases executed with
      | unwritten => exact absurd sent List.not_mem_nil
      | unanswered => cases houtcome
      | refused => cases houtcome
      | accepted written accepts =>
          obtain rfl := List.mem_singleton.mp sent
          refine ⟨Request.method_of_written written, ?_⟩
          rintro response ⟨⟩ accepted
          refine ⟨fun _ => rfl, fun error undrained => ?_⟩
          cases (accepts.drained drains).symm.trans undrained

theorem Performed.of_onSecond {τ : Type} {first : τ} {result : Except Error Unit}
    {after : Handle kind} {reached : τ × σ}
    (performed : Performed transport.onSecond request endpoint handle (first, state) result after
      reached) :
    ∃ next, reached = (first, next) ∧
      Performed transport request endpoint handle state result after next := by
  cases performed with
  | unsent => exact ⟨state, rfl, .unsent⟩
  | failed exchanged =>
      rw [Request.exchange_onSecond] at exchanged
      obtain ⟨outcome, rfl⟩ := Prod.mk.inj exchanged
      exact ⟨_, rfl, .failed (Prod.ext outcome rfl)⟩
  | done exchanged =>
      rw [Request.exchange_onSecond] at exchanged
      obtain ⟨outcome, rfl⟩ := Prod.mk.inj exchanged
      exact ⟨_, rfl, .done (Prod.ext outcome rfl)⟩

end Handle

namespace Object

open Handle

variable {σ : Type}

private theorem performed_upload (transport : Transport σ) (object : Object) (body : Body)
    (options : Options) (state : σ) :
    ∃ result after next,
      (Object.upload transport body options).attempt (object, state) = (result, (after, next)) ∧
      Performed transport (object.put body options) object.site.endpoint object state result after
        next := by
  rw [attempt_upload]
  apply performed_of_exchange
  · intro response pulled next exchanged
    rw [exchanged]
    exact ⟨_, rfl⟩
  · intro cause pulled next exchanged
    rw [exchanged]
    exact ⟨cause, rfl⟩

private theorem performed_uploadFrom (transport : Transport σ) (object : Object)
    (producer : Producer) (options : Options) (state : σ) :
    ∃ result after next,
      (Object.uploadFrom transport producer options).attempt (object, state) =
        (result, (after, next)) ∧
      Performed transport (object.put (.stream producer.stream) options) object.site.endpoint object
        state result after next := by
  obtain ⟨moves, pipe, result, ran, attempt, whole⟩ :=
    attempt_uploadFrom transport producer options object state
  rw [attempt]
  rw [uploading_eq] at whole ⊢
  apply performed_of_exchange
  · intro response pulled next exchanged
    rw [exchanged]
    exact ⟨result, rfl⟩
  · intro cause pulled next exchanged
    rw [exchanged] at whole ⊢
    have sound :=
      (Pipe.sound_start (channelCapacity object.site.settings) producer).of_run moves ran
    have protocol := sound.protocol_of_sound (channelCapacity_pos object.site.settings)
    -- The producer may put its own error in the place of that of the upload, but no success.
    cases result with
    | ok value => cases (protocol.succeeded _ whole).2
    | error reason => exact ⟨reason, rfl⟩

theorem performed_copyFrom (transport : Transport σ) (source target : Object) (options : Options)
    (state : σ) :
    ∃ result after next,
      (Object.copyFrom transport source options).attempt (target, state) =
        (result, (after, next)) ∧
      Performed transport (source.request .copy (copyOptions source target options) [.created])
        source.site.endpoint target state result after next := by
  unfold Object.copyFrom
  rw [Remote.attempt_bind, Remote.attempt_get]
  dsimp only
  rw [Remote.attempt_bind, Remote.attempt_ofExcept]
  cases (Address.check target.containerName (some target.name)).mapError Error.invalidRequest with
  | error error => exact ⟨.error error, target, state, rfl, .unsent⟩
  | ok =>
      dsimp only
      rw [Remote.attempt_bind, Remote.attempt_onSecond, Request.attempt_execute]
      apply performed_of_exchange
      · intro response pulled next exchanged
        rw [exchanged]
        exact ⟨.ok (), rfl⟩
      · intro cause pulled next exchanged
        rw [exchanged]
        exact ⟨cause, rfl⟩

end Object

namespace Mutation

open Handle

variable {σ : Type} {kind : Kind}

theorem perform_performed (mutation : Mutation kind) (transport : Transport σ)
    (handle : Handle kind) (state : σ) :
    ∃ result after next,
      (mutation.perform transport).attempt (handle, state) = (result, (after, next)) ∧
      Performed transport (mutation.request handle) (mutation.endpoint handle) handle state result
        after next := by
  cases mutation with
  | update headers options => exact performed_change transport handle .post _ _ state
  | createAccount options => exact performed_change transport handle .put options _ state
  | createContainer options => exact performed_change transport handle .put options _ state
  | deleteContainer options => exact performed_change transport handle .delete options _ state
  | deleteObject options => exact performed_change transport handle .delete options _ state
  | upload body options => exact Object.performed_upload transport handle body options state
  | write producer options =>
      exact Object.performed_uploadFrom transport handle producer options state
  | copy source options => exact Object.performed_copyFrom transport source handle options state

theorem perform_leaves (mutation : Mutation kind) (transport : Transport σ) (handle : Handle kind)
    (events : List Observation) (state : σ) :
    ∃ result new last after,
      (mutation.perform transport.observed).attempt (handle, (events, state)) =
        (result, (after, (events ++ new, last))) ∧
      ∀ send ∈ Observation.sends new, Leaves mutation.statuses handle after result send := by
  obtain ⟨result, after, reached, run, performed⟩ :=
    mutation.perform_performed transport.observed handle (events, state)
  obtain ⟨new, last, rfl, leaves⟩ := performed.leaves_of_drains (mutation.drains_request handle)
  rw [expected_request] at leaves
  exact ⟨result, new, last, after, run, fun send sent => (leaves send sent).2⟩

end Mutation

namespace Object

open Handle

variable {σ : Type}

theorem move_leaves (transport : Transport σ) (source target : Object)
    (options deleteOptions : Options) (events : List Observation) (state : σ) :
    ∃ result copies deletions last left reached,
      (Object.move transport.observed options deleteOptions).attempt
          (source, (target, (events, state))) =
        (result, (left, (reached, (events ++ copies ++ deletions, last)))) ∧
      (∀ send ∈ Observation.sends copies,
        send.1.method = .copy ∧ Leaves [.created] target reached result send) ∧
      ∀ send ∈ Observation.sends deletions,
        send.1.method = .delete ∧ Leaves [.noContent] source left result send := by
  obtain ⟨copied, reached, next, run, performed⟩ :=
    performed_copyFrom transport.observed source target options (events, state)
  obtain ⟨copies, last, rfl, copy⟩ := performed.leaves_of_drains rfl
  unfold Object.move
  rw [Remote.attempt_bind, Remote.attempt_get]
  dsimp only
  rw [Remote.attempt_bind, Remote.attempt_onSecond, run]
  cases copied with
  | error error =>
      refine ⟨.error error, copies, [], last, source, reached, ?_, copy, ?_⟩
      · rw [List.append_nil]
      · intro send sent
        exact absurd sent List.not_mem_nil
  | ok value =>
      obtain ⟨deleted, left, next, deletion, performed⟩ := performed_change
        transport.observed.onSecond source .delete deleteOptions [.noContent]
        (reached, (events ++ copies, last))
      obtain ⟨next, rfl, deletes⟩ := performed.of_onSecond
      obtain ⟨deletions, final, rfl, delete⟩ := deletes.leaves_of_drains rfl
      dsimp only
      rw [Object.delete, deletion]
      refine ⟨deleted, copies, deletions, final, left, reached, rfl, ?_, delete⟩
      intro send sent
      obtain ⟨method, leaves⟩ := copy send sent
      refine ⟨method, fun response answered accepted => ⟨?_, ?_⟩⟩
      · exact (leaves response answered accepted).1
      · intro error undrained
        obtain ⟨-, reason, failed⟩ := (leaves response answered accepted).2 error undrained
        cases failed

end Object

/--
After an answer by which the server says that it has applied a change, the handle has no headers,
also when the change ends with an error, unless that error is that the body of the answer cannot be
read: then the handle is left as it was.
-/
theorem applied_changes {σ : Type} (transport : Transport σ) (events : List Observation)
    (state : σ) :
    (∀ {kind : Kind} (mutation : Mutation kind) (handle : Handle kind),
      ∃ result new last after,
        (mutation.perform transport.observed).attempt (handle, (events, state)) =
          (result, (after, (events ++ new, last))) ∧
        ∀ send ∈ Observation.sends new, Handle.Leaves mutation.statuses handle after result send) ∧
    ∀ (source target : Object) (options deleteOptions : Options),
      ∃ result copies deletions last left reached,
        (Object.move transport.observed options deleteOptions).attempt
            (source, (target, (events, state))) =
          (result, (left, (reached, (events ++ copies ++ deletions, last)))) ∧
        (∀ send ∈ Observation.sends copies,
          send.1.method = .copy ∧ Handle.Leaves [.created] target reached result send) ∧
        ∀ send ∈ Observation.sends deletions,
          send.1.method = .delete ∧ Handle.Leaves [.noContent] source left result send :=
  ⟨fun mutation handle => mutation.perform_leaves transport handle events state,
    fun source target options deleteOptions =>
      Object.move_leaves transport source target options deleteOptions events state⟩

def brokenServer : Transport Unit where
  send _ := fun state =>
    (⟨.ok ⟨.noContent, .none, .stream ⟨[], some "connection reset"⟩⟩, 0⟩, state)

def fetchedBox : Container :=
  ⟨⟨⟨"http", "", "", some "swift.test", none, .segments ["v1", "AUTH_test"], none, none, false⟩,
    "AUTH_test", .standard⟩, .container "box", some .empty⟩

/-- An update that is applied but not read to the end leaves the headers from before. -/
theorem not_dropped_unread :
    ¬∀ (mutation : Mutation .container) (container : Container),
      ∀ send ∈ Observation.sends
          ((mutation.perform brokenServer.observed).attempt (container, ([], ()))).2.2.1,
      ∀ response, send.2.result = .ok response → response.status ∈ mutation.statuses →
        ((mutation.perform brokenServer.observed).attempt (container, ([], ()))).2.1.cached =
          none := by
  intro dropped
  have answers : (Observation.sends (((Mutation.update .empty .none).perform
      brokenServer.observed).attempt (fetchedBox, ([], ()))).2.2.1).map
        (fun send => send.2.result.toOption.map Http.Response.status) = [some .noContent] := by
    decide +kernel
  have held : (((Mutation.update .empty .none).perform
      brokenServer.observed).attempt (fetchedBox, ([], ()))).2.1.cached = some .empty := by
    decide +kernel
  obtain ⟨send, sent, status⟩ := List.map_eq_singleton_iff.mp answers
  cases answered : send.2.result with
  | error error => simp [answered, Except.toOption] at status
  | ok response =>
      have accepted : response.status = .noContent := by
        simpa [answered, Except.toOption] using status
      have claimed := dropped (.update .empty .none) fetchedBox send (by simp [sent]) response
        answered (by rw [accepted]; decide)
      cases held.symm.trans claimed

end ObjectStorage
