import ObjectStorage.Container
import ObjectStorage.Object.Copy
import ObjectStorage.Object.Transfer
import ObjectStorage.Proofs.Execution

/-!
# What operations do to handles

For each operation on a handle, the ways in which it can end: its result, what was sent for it, and
the handle as it is left.
-/

namespace ObjectStorage

abbrev Sends := List (Http.Request × Exchange)

namespace Handle

variable {kind : Kind} {σ : Type}

def holding (handle : Handle kind) (response : Http.Response) : Handle kind :=
  { handle with cached := some (.ofFields response.fields) }

def fetchStatuses : Kind → List Http.Status
  | .account => [.ok, .noContent]
  | .container => [.noContent]
  | .object => [.ok]

def IsFetch (method : Http.Method) : Prop := method = .get ∨ method = .head

/-! ## Outcomes -/

inductive LookedUp (handle : Handle kind) : Except Error Headers → Sends → Handle kind → Prop
  | held {headers : Headers} (cached : handle.cached = some headers) :
      LookedUp handle (.ok headers) [] handle
  | unwritten {error : Error} (empty : handle.cached = none)
      (unwritten : handle.fetch.written handle.site.endpoint = .error error) :
      LookedUp handle (.error error) [] handle
  | failed {error : Error} {message : Http.Request} {exchange : Exchange}
      (empty : handle.cached = none)
      (written : handle.fetch.written handle.site.endpoint = .ok message)
      (invalid : ∀ response, exchange.result = .ok response → handle.fetch.Accepts response →
        (Headers.ofFields response.fields).validate kind ≠ .ok ()) :
      LookedUp handle (.error error) [(message, exchange)] handle
  | fetched {message : Http.Request} {response : Http.Response} {pulled : Nat}
      (empty : handle.cached = none)
      (written : handle.fetch.written handle.site.endpoint = .ok message)
      (status : response.status ∈ fetchStatuses kind)
      (valid : (Headers.ofFields response.fields).validate kind = .ok ()) :
      LookedUp handle (.ok (.ofFields response.fields)) [(message, ⟨.ok response, pulled⟩)]
        (handle.holding response)

inductive Changed (handle : Handle kind) (method : Http.Method) (expected : List Http.Status) :
    Except Error Unit → Sends → Handle kind → Prop
  | failed {error : Error} {sends : Sends} :
      Changed handle method expected (.error error) sends handle
  | done {message : Http.Request} {response : Http.Response} {pulled : Nat}
      (sent : message.method = method) (status : response.status ∈ expected) :
      Changed handle method expected (.ok ()) [(message, ⟨.ok response, pulled⟩)] handle.invalidated

/-! ## Headers -/

section

variable (transport : Transport σ) (events : List Observation) (state : σ)

theorem method_fetch (handle : Handle kind) : IsFetch handle.fetch.method := by
  cases kind with
  | account => exact .inl rfl
  | container => exact .inr rfl
  | object => exact .inr rfl

private theorem isExpected_fetch {handle : Handle kind} {status : Http.Status}
    (h : handle.fetch.isExpected status = true) : status ∈ fetchStatuses kind := by
  cases kind <;> simpa [Request.isExpected, fetch, request, Request.plain, fetchStatuses] using h

theorem fields_taken (request : Request) (response : Http.Response) :
    (request.taken response).fields = response.fields := by
  unfold Request.taken
  split <;> rfl

theorem attempt_execute (transport : Transport σ) (handle : Handle kind) (request : Request)
    (state : σ) :
    (Handle.execute transport request).attempt (handle, state) =
      (((request.execute transport handle.site.endpoint).attempt state).1,
        (handle, ((request.execute transport handle.site.endpoint).attempt state).2)) := by
  rw [Handle.execute, Remote.attempt_bind, Remote.attempt_get]
  exact Remote.attempt_onSecond _ handle state

theorem attempt_keep (handle : Handle kind) (response : Http.Response) (state : σ) :
    (Handle.keep response).attempt (handle, state) =
      match (Headers.ofFields response.fields).validate kind with
      | .ok () => (.ok (.ofFields response.fields), (handle.holding response, state))
      | .error error => (.error error, (handle, state)) := by
  unfold Handle.keep
  rw [Remote.attempt_bind, Remote.attempt_ofExcept]
  cases (Headers.ofFields response.fields).validate kind <;> rfl

theorem headers_lookedUp (handle : Handle kind) :
    ∃ result new last after,
      (Handle.headers transport.observed).attempt (handle, (events, state)) =
        (result, (after, (events ++ new, last))) ∧
      LookedUp handle result (Observation.sends new) after := by
  unfold Handle.headers
  rw [Remote.attempt_bind, Remote.attempt_get]
  dsimp only
  cases hcached : handle.cached with
  | some headers =>
      refine ⟨.ok headers, [], state, handle, ?_, .held hcached⟩
      rw [List.append_nil]
      rfl
  | none =>
      obtain ⟨result, new, last, run, executed⟩ :=
        Request.execute_executed transport handle.fetch handle.site.endpoint events state
      rw [Remote.attempt_bind, attempt_execute, run]
      generalize hsends : Observation.sends new = sends at executed
      cases executed with
      | unwritten unwritten =>
          exact ⟨_, new, last, handle, rfl, hsends ▸ .unwritten hcached unwritten⟩
      | unanswered written =>
          refine ⟨_, new, last, handle, rfl, hsends ▸ .failed hcached written ?_⟩
          intro response answered
          exact nomatch answered
      | refused written refusal =>
          refine ⟨_, new, last, handle, rfl, hsends ▸ .failed hcached written ?_⟩
          intro response answered accepts
          cases answered
          exact absurd accepts refusal.not_accepts
      | @accepted message response pulled written accepts =>
          dsimp only
          rw [attempt_keep]
          cases valid : (Headers.ofFields (handle.fetch.taken response).fields).validate kind with
          | error error =>
              rw [fields_taken] at valid
              refine ⟨_, new, last, handle, rfl, hsends ▸ .failed hcached written ?_⟩
              intro other answered _ holds
              cases answered
              exact nomatch valid.symm.trans holds
          | ok =>
              rw [fields_taken] at valid
              refine ⟨.ok (.ofFields response.fields), new, last, handle.holding response, ?_, ?_⟩
              · simp [holding, fields_taken]
              · rw [hsends]
                exact .fetched hcached written (isExpected_fetch accepts.expected) valid

def foundBy (looked : Except Error Headers) : Except Error Bool :=
  match looked with
  | .ok _ => .ok true
  | .error error => if error.isNotFound then .ok false else .error error

theorem attempt_exists? (transport : Transport σ) (handle : Handle kind) (state : σ) :
    (Handle.exists? transport).attempt (handle, state) =
      (foundBy ((Handle.headers transport).attempt (handle, state)).1,
        ((Handle.headers transport).attempt (handle, state)).2) := by
  rw [Handle.exists?, Remote.attempt_bind, Remote.attempt_ofState]
  cases (Handle.headers transport).attempt (handle, state) with
  | mk result last =>
      cases result with
      | ok headers => rfl
      | error error =>
          dsimp only [foundBy]
          split <;> rfl

/-! ## Changes -/

theorem attempt_change (transport : Transport σ) (handle : Handle kind) (method : Http.Method)
    (options : Options) (expected : List Http.Status) (state : σ) :
    (Handle.change transport method options expected).attempt (handle, state) =
      match ((handle.request method options expected).execute transport
          handle.site.endpoint).attempt state with
      | (.ok _, state) => (.ok (), (handle.invalidated, state))
      | (.error error, state) => (.error error, (handle, state)) := by
  unfold Handle.change
  rw [Remote.attempt_bind, Remote.attempt_get]
  dsimp only
  rw [Remote.attempt_bind, attempt_execute]
  cases ((handle.request method options expected).execute transport
    handle.site.endpoint).attempt state with
  | mk result last => cases result <;> rfl

theorem isExpected_request {handle : Handle kind} {method : Http.Method} {options : Options}
    {expected : List Http.Status} (hne : expected ≠ []) {status : Http.Status}
    (h : (handle.request method options expected).isExpected status = true) :
    status ∈ expected := by
  simpa [Request.isExpected, request, Request.plain, List.isEmpty_iff, hne] using h

theorem change_changed (handle : Handle kind) (method : Http.Method) (options : Options)
    {expected : List Http.Status} (hne : expected ≠ []) :
    ∃ result new last after,
      (Handle.change transport.observed method options expected).attempt (handle, (events, state)) =
        (result, (after, (events ++ new, last))) ∧
      Changed handle method expected result (Observation.sends new) after := by
  obtain ⟨result, new, last, run, executed⟩ := Request.execute_executed transport
    (handle.request method options expected) handle.site.endpoint events state
  rw [attempt_change, run]
  generalize hsends : Observation.sends new = sends at executed
  cases executed with
  | unwritten => exact ⟨_, new, last, handle, rfl, .failed⟩
  | unanswered => exact ⟨_, new, last, handle, rfl, .failed⟩
  | refused => exact ⟨_, new, last, handle, rfl, .failed⟩
  | accepted written accepts =>
      exact ⟨_, new, last, handle.invalidated, rfl, hsends ▸
        .done (Request.method_of_written written) (isExpected_request hne accepts.expected)⟩

end

end Handle

/-! ## Containers -/

namespace Container

open Handle

variable {σ : Type} (transport : Transport σ) (events : List Observation) (state : σ)

inductive Ensured (container : Container) : Except Error Unit → Sends → Container → Prop
  | found {headers : Headers} {sends : Sends} {after : Container}
      (looked : LookedUp container (.ok headers) sends after) :
      Ensured container (.ok ()) sends after
  | failed {error : Error} {sends : Sends} : Ensured container (.error error) sends container
  | created {sends : Sends} {message : Http.Request} {response : Http.Response} {pulled : Nat}
      (sent : message.method = .put) (status : response.status ∈ [Http.Status.created, .accepted]) :
      Ensured container (.ok ()) (sends ++ [(message, ⟨.ok response, pulled⟩)])
        container.invalidated

theorem eq_of_lookedUp_error {kind : Kind} {handle after : Handle kind} {error : Error}
    {sends : Sends} (looked : LookedUp handle (.error error) sends after) : after = handle := by
  cases looked <;> rfl

theorem ensureExists_ensured (container : Container) :
    ∃ result new last after,
      (Container.ensureExists transport.observed).attempt (container, (events, state)) =
        (result, (after, (events ++ new, last))) ∧
      Ensured container result (Observation.sends new) after := by
  obtain ⟨looked, new, last, after, run, lookedUp⟩ :=
    Handle.headers_lookedUp transport events state container
  unfold Container.ensureExists
  rw [Remote.attempt_bind, attempt_exists?, run]
  cases looked with
  | ok headers => exact ⟨.ok (), new, last, after, rfl, .found lookedUp⟩
  | error error =>
      obtain rfl := eq_of_lookedUp_error lookedUp
      cases hfound : error.isNotFound with
      | false =>
          refine ⟨.error error, new, last, after, ?_, .failed⟩
          simp [foundBy, hfound]
      | true =>
          obtain ⟨result, others, final, left, change, changed⟩ := Handle.change_changed transport
            (events ++ new) last after .put .none (List.cons_ne_nil .created [.accepted])
          refine ⟨result, new ++ others, final, left, ?_, ?_⟩
          · rw [← List.append_assoc]
            simpa [foundBy, hfound, Container.create] using change
          · have sends : Observation.sends (new ++ others) =
                Observation.sends new ++ Observation.sends others := List.filterMap_append
            rw [sends]
            generalize Observation.sends others = sent at changed
            cases changed with
            | failed => exact .failed
            | done sent status => exact .created sent status

end Container

/-! ## Objects -/

namespace Object

open Handle

variable {σ : Type} (transport : Transport σ) (events : List Observation) (state : σ)

inductive Downloaded (object : Object) : Except Error Download → Sends → Object → Prop
  | failed {error : Error} {sends : Sends} : Downloaded object (.error error) sends object
  | fetched {message : Http.Request} {response : Http.Response} {pulled : Nat}
      (sent : message.method = .get) (status : response.status = .ok)
      (valid : (Headers.ofFields response.fields).validate .object = .ok ()) :
      Downloaded object (.ok ⟨.ofFields response.fields, response.body⟩)
        [(message, ⟨.ok response, pulled⟩)] (object.holding response)

theorem download_downloaded (object : Object) (options : Options) :
    ∃ result new last after,
      (Object.download transport.observed options).attempt (object, (events, state)) =
        (result, (after, (events ++ new, last))) ∧
      Downloaded object result (Observation.sends new) after := by
  obtain ⟨result, new, last, run, executed⟩ := Request.execute_executed transport
    { object.request .get options [.ok] with drains := false } object.site.endpoint events state
  unfold Object.download
  rw [Remote.attempt_bind, Remote.attempt_get]
  dsimp only
  rw [Remote.attempt_bind, Handle.attempt_execute, run]
  generalize hsends : Observation.sends new = sends at executed
  cases executed with
  | unwritten => exact ⟨_, new, last, object, rfl, .failed⟩
  | unanswered => exact ⟨_, new, last, object, rfl, .failed⟩
  | refused => exact ⟨_, new, last, object, rfl, .failed⟩
  | @accepted message response pulled written accepts =>
      have status : response.status = .ok := by
        simpa [Request.isExpected, Handle.request, Request.plain] using accepts.expected
      dsimp only [Request.taken]
      rw [Remote.attempt_bind, attempt_keep]
      cases valid : (Headers.ofFields response.fields).validate .object with
      | error error =>
          refine ⟨.error error, new, last, object, ?_, .failed⟩
          simp [valid]
      | ok =>
          refine ⟨.ok ⟨.ofFields response.fields, response.body⟩, new, last,
            object.holding response, ?_, ?_⟩
          · simp [valid]
            rfl
          · rw [hsends]
            exact .fetched (Request.method_of_written written) status valid

/-- How an upload ends; what has been stored may still have another checksum than expected. -/
inductive Stored (object : Object) : Except Error Unit → Sends → Object → Prop
  | failed {error : Error} {sends : Sends}
      (reported : ∀ expected actual, error = .checksumMismatch expected actual →
        ∃ sent ∈ sends, sent.2.result = .error error) :
      Stored object (.error error) sends object
  | stored {result : Except Error Unit} {message : Http.Request} {response : Http.Response}
      {pulled : Nat} (sent : message.method = .put) (status : response.status = .created) :
      Stored object result [(message, ⟨.ok response, pulled⟩)] object.invalidated

theorem uploading_eq (transport : Transport σ) (object : Object) (body : Body)
    (options : Options) (state : σ) :
    uploading transport body options (object, state) =
      match (object.put body options).exchange transport object.site.endpoint state with
      | (⟨.error error, pulled⟩, state) => (⟨.error error, pulled⟩, (object, state))
      | (⟨.ok response, pulled⟩, state) =>
          (⟨verify (hashedChunks? body options.headers) pulled response.fields, pulled⟩,
            (Handle.invalidated object, state)) := by
  unfold uploading
  dsimp only
  cases (object.put body options).exchange transport object.site.endpoint state with
  | mk exchange next =>
      obtain ⟨result, pulled⟩ := exchange
      cases result <;> rfl

theorem attempt_upload (transport : Transport σ) (object : Object) (body : Body)
    (options : Options) (state : σ) :
    (Object.upload transport body options).attempt (object, state) =
      match (object.put body options).exchange transport object.site.endpoint state with
      | (⟨.error error, _⟩, state) => (.error error, (object, state))
      | (⟨.ok response, pulled⟩, state) =>
          (verify (hashedChunks? body options.headers) pulled response.fields,
            (Handle.invalidated object, state)) := by
  unfold Object.upload
  rw [Remote.attempt_bind, Remote.attempt_ofState]
  dsimp only
  rw [Remote.attempt_ofExcept, uploading_eq]
  cases (object.put body options).exchange transport object.site.endpoint state with
  | mk exchange next =>
      obtain ⟨result, pulled⟩ := exchange
      cases result <;> rfl

theorem upload_stored (object : Object) (body : Body) (options : Options) :
    ∃ result new last after,
      (Object.upload transport.observed body options).attempt (object, (events, state)) =
        (result, (after, (events ++ new, last))) ∧
      Stored object result (Observation.sends new) after := by
  obtain ⟨result, new, last, run, executed⟩ := Request.execute_executed transport
    (object.put body options) object.site.endpoint events state
  rw [Request.attempt_execute] at run
  rw [attempt_upload]
  cases hexchange : (object.put body options).exchange transport.observed object.site.endpoint
      (events, state) with
  | mk exchange reached =>
  rw [hexchange] at run
  obtain ⟨outcome, pulled⟩ := exchange
  obtain ⟨houtcome, rfl⟩ := Prod.mk.inj run
  dsimp only at houtcome
  subst houtcome
  generalize hsends : Observation.sends new = sends at executed
  cases executed with
  | @unwritten error unwritten =>
      refine ⟨.error error, new, last, object, rfl, .failed fun expected actual mismatch => ?_⟩
      rcases Request.error_of_unwritten unwritten with ⟨fault, h⟩ | ⟨name, fault, h⟩
      · exact nomatch mismatch.symm.trans h
      · exact nomatch mismatch.symm.trans h
  | @unanswered error message pulled =>
      refine ⟨.error error, new, last, object, rfl, .failed fun _ _ _ => ?_⟩
      rw [hsends]
      exact ⟨_, List.mem_singleton.mpr rfl, rfl⟩
  | @refused error message response pulled written refusal =>
      refine ⟨.error error, new, last, object, rfl, .failed fun expected actual mismatch => ?_⟩
      cases refusal <;> exact nomatch mismatch
  | @accepted message response pulled written accepts =>
      have status : response.status = .created := by
        simpa [Request.isExpected, put, Handle.request, Request.plain] using accepts.expected
      refine ⟨_, new, last, object.invalidated, rfl, ?_⟩
      rw [hsends]
      exact .stored (Request.method_of_written written) status

/-! ## Copies and moves -/

/-- Whether the first thing that was sent was a copy, and it was done. -/
def IsCopied (sends : Sends) : Prop :=
  ∃ message response pulled rest, sends = (message, ⟨.ok response, pulled⟩) :: rest ∧
    message.method = .copy ∧ response.status = .created ∧ response.body.drain = .ok ()

theorem not_isCopied_nil : ¬IsCopied [] := by
  rintro ⟨_, _, _, _, h, -⟩
  exact nomatch h

inductive Copied (target : Object) : Except Error Unit → Sends → Object → Prop
  | failed {error : Error} {sends : Sends} (undone : ¬IsCopied sends) :
      Copied target (.error error) sends target
  | done {sends : Sends} (copied : IsCopied sends) :
      Copied target (.ok ()) sends target.invalidated

def copyRequest (source target : Object) (options : Options) : Request :=
  source.request .copy (copyOptions source target options) [.created]

theorem attempt_copyFrom (source target : Object) (options : Options) :
    (Object.copyFrom transport source options).attempt (target, state) =
      match Address.check target.containerName (some target.name) with
      | .error fault => (.error (.invalidRequest fault), (target, state))
      | .ok () =>
          match ((copyRequest source target options).execute transport
              source.site.endpoint).attempt state with
          | (.ok _, state) => (.ok (), (Handle.invalidated target, state))
          | (.error error, state) => (.error error, (target, state)) := by
  unfold Object.copyFrom
  rw [Remote.attempt_bind, Remote.attempt_get]
  dsimp only
  rw [Remote.attempt_bind, Remote.attempt_ofExcept]
  cases Address.check target.containerName (some target.name) with
  | error fault => rfl
  | ok =>
      dsimp only [Except.mapError]
      rw [Remote.attempt_bind, Remote.attempt_onSecond, copyRequest]
      cases ((source.request .copy (copyOptions source target options) [.created]).execute transport
        source.site.endpoint).attempt state with
      | mk result last => cases result <;> rfl

theorem copyFrom_copied (source target : Object) (options : Options) :
    ∃ result new last after,
      (Object.copyFrom transport.observed source options).attempt (target, (events, state)) =
        (result, (after, (events ++ new, last))) ∧
      Copied target result (Observation.sends new) after := by
  rw [attempt_copyFrom]
  cases Address.check target.containerName (some target.name) with
  | error fault =>
      refine ⟨.error (.invalidRequest fault), [], state, target, ?_, .failed not_isCopied_nil⟩
      rw [List.append_nil]
  | ok =>
      obtain ⟨result, new, last, run, executed⟩ := Request.execute_executed transport
        (copyRequest source target options) source.site.endpoint events state
      dsimp only
      rw [run]
      generalize hsends : Observation.sends new = sends at executed
      cases executed with
      | unwritten => exact ⟨_, new, last, target, rfl, hsends ▸ .failed not_isCopied_nil⟩
      | unanswered =>
          refine ⟨_, new, last, target, rfl, hsends ▸ .failed ?_⟩
          rintro ⟨_, _, _, _, heq, -⟩
          exact nomatch heq
      | refused written refusal =>
          refine ⟨_, new, last, target, rfl, hsends ▸ .failed ?_⟩
          rintro ⟨_, response, pulled, _, heq, -, status, drained⟩
          cases heq
          refine refusal.not_accepts ⟨?_, fun _ => drained⟩
          simp [Request.isExpected, copyRequest, Handle.request, Request.plain, status]
      | @accepted message response pulled written accepts =>
          have status : response.status = .created := by
            simpa [Request.isExpected, copyRequest, Handle.request, Request.plain]
              using accepts.expected
          exact ⟨_, new, last, target.invalidated, rfl, hsends ▸
            .done ⟨message, response, pulled, [], rfl, Request.method_of_written written, status,
              accepts.drained rfl⟩⟩

inductive Moved (source target : Object) : Except Error Unit → Sends → Object → Object → Prop
  | uncopied {error : Error} {sends : Sends} (undone : ¬IsCopied sends) :
      Moved source target (.error error) sends source target
  | undeleted {error : Error} {sends : Sends} (copied : IsCopied sends) :
      Moved source target (.error error) sends source target.invalidated
  | moved {sends : Sends} {message : Http.Request} {response : Http.Response} {pulled : Nat}
      (copied : IsCopied (sends ++ [(message, ⟨.ok response, pulled⟩)]))
      (sent : message.method = .delete) (status : response.status = .noContent) :
      Moved source target (.ok ()) (sends ++ [(message, ⟨.ok response, pulled⟩)])
        source.invalidated target.invalidated

theorem IsCopied.append {sends : Sends} (copied : IsCopied sends) (others : Sends) :
    IsCopied (sends ++ others) := by
  obtain ⟨message, response, pulled, rest, rfl, done⟩ := copied
  exact ⟨message, response, pulled, rest ++ others, rfl, done⟩

def deleteRequest (source : Object) (options : Options) : Request :=
  source.request .delete options [.noContent]

theorem attempt_move (source target : Object) (options deleteOptions : Options) :
    (Object.move transport options deleteOptions).attempt (source, (target, state)) =
      match (Object.copyFrom transport source options).attempt (target, state) with
      | (.error error, (target, state)) => (.error error, (source, (target, state)))
      | (.ok _, (target, state)) =>
          match ((deleteRequest source deleteOptions).execute transport
              source.site.endpoint).attempt state with
          | (.ok _, state) => (.ok (), (Handle.invalidated source, (target, state)))
          | (.error error, state) => (.error error, (source, (target, state))) := by
  unfold Object.move
  rw [Remote.attempt_bind, Remote.attempt_get]
  dsimp only
  rw [Remote.attempt_bind, Remote.attempt_onSecond]
  cases (Object.copyFrom transport source options).attempt (target, state) with
  | mk result reached =>
      cases result with
      | error error => rfl
      | ok =>
          obtain ⟨target, state⟩ := reached
          dsimp only
          rw [Object.delete, attempt_change, Request.attempt_execute_onSecond, deleteRequest]
          cases ((source.request .delete deleteOptions [.noContent]).execute transport
            source.site.endpoint).attempt state with
          | mk result last => cases result <;> rfl

theorem move_moved (source target : Object) (options deleteOptions : Options) :
    ∃ result new last left reached,
      (Object.move transport.observed options deleteOptions).attempt
          (source, (target, (events, state))) =
        (result, (left, (reached, (events ++ new, last)))) ∧
      Moved source target result (Observation.sends new) left reached := by
  obtain ⟨result, new, last, after, run, copy⟩ :=
    copyFrom_copied transport events state source target options
  rw [attempt_move, run]
  cases copy with
  | failed undone => exact ⟨_, new, last, source, target, rfl, .uncopied undone⟩
  | done copied =>
      obtain ⟨deleted, others, final, deletion, executed⟩ := Request.execute_executed transport
        (deleteRequest source deleteOptions) source.site.endpoint (events ++ new) last
      have sends : Observation.sends (new ++ others) =
          Observation.sends new ++ Observation.sends others := List.filterMap_append
      have both := copied.append (Observation.sends others)
      dsimp only
      rw [deletion, List.append_assoc]
      generalize Observation.sends others = sent at executed sends both
      cases executed with
      | unwritten =>
          exact ⟨_, new ++ others, final, source, target.invalidated, rfl,
            .undeleted (sends ▸ both)⟩
      | unanswered =>
          exact ⟨_, new ++ others, final, source, target.invalidated, rfl,
            .undeleted (sends ▸ both)⟩
      | refused =>
          exact ⟨_, new ++ others, final, source, target.invalidated, rfl,
            .undeleted (sends ▸ both)⟩
      | accepted written accepts =>
          have status := isExpected_request (by simp) accepts.expected
          refine ⟨_, new ++ others, final, source.invalidated, target.invalidated, rfl, ?_⟩
          rw [sends]
          exact .moved both (Request.method_of_written written) (by simpa using status)

end Object

end ObjectStorage
