import ObjectStorage.Proofs.Observed
import ObjectStorage.Request

/-!
# Executed requests

A request that cannot be written is refused before anything is sent; any other is sent once, and
the answer is held against what the request accepts.
-/

namespace ObjectStorage

namespace Remote

variable {σ τ α : Type} {operation : Remote σ α} {state next : σ} {value : α} {error : Error}

theorem onSecond_of_ok (first : τ) (h : operation state = .ok value next) :
    Remote.onSecond operation (first, state) = .ok value (first, next) := by
  simp [onSecond, h]

theorem onSecond_of_error (first : τ) (h : operation state = .error error next) :
    Remote.onSecond operation (first, state) = .error error (first, next) := by
  simp [onSecond, h]

theorem bind_of_ok {β : Type} {after : α → Remote σ β} (h : operation state = .ok value next) :
    (operation >>= after) state = after value next := by
  simp [bind, EStateM.bind, h]

theorem bind_of_error {β : Type} {after : α → Remote σ β}
    (h : operation state = .error error next) :
    (operation >>= after) state = .error error next := by
  simp [bind, EStateM.bind, h]

theorem map_of_ok {β : Type} (change : α → β) (h : operation state = .ok value next) :
    (change <$> operation) state = .ok (change value) next := by
  simp [Functor.map, EStateM.map, h]

theorem map_of_error {β : Type} (change : α → β) (h : operation state = .error error next) :
    (change <$> operation) state = .error error next := by
  simp [Functor.map, EStateM.map, h]

theorem ofExcept_of_ok {result : Except Error α} (h : result = .ok value) :
    Remote.ofExcept result state = .ok value state := by
  rw [h]
  rfl

/-! ## Results with errors as values -/

theorem attempt_get : (get : Remote σ σ).attempt state = (.ok state, state) := rfl

theorem attempt_ofState (operation : StateM σ α) :
    (ofState operation).attempt state = (.ok (operation state).1, (operation state).2) := rfl

theorem attempt_ofExcept (result : Except Error α) :
    (Remote.ofExcept result).attempt state = (result, state) := by
  cases result <;> rfl

theorem ofExcept_bind {β : Type} (result : Except Error α) (next : α → Except Error β) :
    (Remote.ofExcept (result >>= next) : Remote σ β) =
      Remote.ofExcept result >>= fun value => Remote.ofExcept (next value) := by
  cases result <;> rfl

theorem attempt_bind {β : Type} (operation : Remote σ α) (after : α → Remote σ β) (state : σ) :
    (operation >>= after).attempt state =
      match operation.attempt state with
      | (.ok value, state) => (after value).attempt state
      | (.error error, state) => (.error error, state) := by
  cases h : operation state <;> simp [attempt, bind, EStateM.bind, h]

theorem attempt_map {β : Type} (change : α → β) (operation : Remote σ α) (state : σ) :
    (change <$> operation).attempt state =
      ((operation.attempt state).1.map change, (operation.attempt state).2) := by
  cases h : operation state <;> simp [attempt, Functor.map, EStateM.map, h, Except.map]

theorem attempt_onSecond (operation : Remote σ α) (first : τ) (state : σ) :
    (Remote.onSecond operation).attempt (first, state) =
      ((operation.attempt state).1, (first, (operation.attempt state).2)) := by
  cases h : operation state <;> simp [attempt, onSecond, h]

end Remote

namespace Headers

private theorem error_of_addField {fields : Http.Fields} {entry : String × String} {error : Error}
    (h : addField fields entry = .error error) : ∃ name fault, error = .badHeader name fault := by
  unfold addField at h
  split at h
  · cases h
    exact ⟨_, _, rfl⟩
  · split at h
    · cases h
      exact ⟨_, _, rfl⟩
    · exact nomatch h

private theorem error_of_toFields {headers : Headers} {error : Error}
    (h : headers.toFields = .error error) : ∃ name fault, error = .badHeader name fault := by
  unfold toFields at h
  generalize Http.Fields.none = fields at h
  generalize headers.toList = entries at h
  induction entries generalizing fields with
  | nil => exact nomatch h
  | cons entry rest ih =>
      rw [List.foldlM_cons] at h
      rcases error_of_bind h with hentry | ⟨next, -, hrest⟩
      · exact error_of_addField hentry
      · exact ih next hrest

end Headers

namespace Request

variable {σ : Type} {transport : Transport σ} {endpoint : Url} {request : Request}
  {message : Http.Request} {state next : σ}

/-- The message that is sent, or why there is none. -/
def written (request : Request) (endpoint : Url) : Except Error Http.Request := do
  request.message (← request.url endpoint)

theorem url_congr {first second : Request} (container : first.container = second.container)
    (object : first.object = second.object)
    (values : first.options.values = second.options.values) (endpoint : Url) :
    first.url endpoint = second.url endpoint := by
  unfold Request.url address path
  rw [container, object, values]

theorem written_withBody (request : Request) (body : Body) (endpoint : Url) :
    ({ request with body } : Request).written endpoint =
      (request.written endpoint).map ({ · with body }) := by
  unfold written
  have same : ({ request with body } : Request).url endpoint = request.url endpoint := by
    apply url_congr <;> rfl
  rw [same]
  cases request.url endpoint with
  | error error => rfl
  | ok url =>
      simp only [bind, Except.bind, Request.message]
      cases target url with
      | error error => rfl
      | ok uri => cases request.options.headers.toFields <;> rfl

theorem parts_of_message {url : Url} (h : request.message url = .ok message) :
    ∃ uri fields, target url = .ok uri ∧ request.options.headers.toFields = .ok fields ∧
      message = ⟨request.method, uri, .http11, fields, request.body⟩ := by
  obtain ⟨uri, huri, h⟩ := ok_of_bind h
  obtain ⟨fields, hfields, h⟩ := ok_of_bind h
  cases h
  exact ⟨uri, fields, huri, hfields, rfl⟩

theorem target_of_message {url : Url} (h : request.message url = .ok message) :
    target url = .ok message.uri := by
  obtain ⟨uri, fields, huri, -, rfl⟩ := parts_of_message h
  exact huri

theorem fields_of_message {url : Url} (h : request.message url = .ok message) :
    request.options.headers.toFields = .ok message.fields := by
  obtain ⟨uri, fields, -, hfields, rfl⟩ := parts_of_message h
  exact hfields

theorem fields_of_written (h : request.written endpoint = .ok message) :
    request.options.headers.toFields = .ok message.fields := by
  obtain ⟨url, -, h⟩ := ok_of_bind h
  exact fields_of_message h

private theorem method_and_body_of_written (h : request.written endpoint = .ok message) :
    message.method = request.method ∧ message.body = request.body := by
  obtain ⟨url, -, h⟩ := ok_of_bind h
  obtain ⟨uri, fields, -, -, rfl⟩ := parts_of_message h
  exact ⟨rfl, rfl⟩

theorem method_of_written (h : request.written endpoint = .ok message) :
    message.method = request.method :=
  (method_and_body_of_written h).1

theorem body_of_written (h : request.written endpoint = .ok message) :
    message.body = request.body :=
  (method_and_body_of_written h).2

theorem written_error_congr {first second : Request} {error : Error}
    (container : first.container = second.container) (object : first.object = second.object)
    (values : first.options.values = second.options.values)
    (refused : ∀ error, first.options.headers.toFields = .error error ↔
      second.options.headers.toFields = .error error) (endpoint : Url) :
    first.written endpoint = .error error ↔ second.written endpoint = .error error := by
  unfold written
  rw [url_congr container object values]
  cases second.url endpoint with
  | error fault => rfl
  | ok url =>
      change first.message url = _ ↔ second.message url = _
      unfold Request.message
      cases target url with
      | error fault => rfl
      | ok uri => exact bind_ok_error_iff.trans ((refused error).trans bind_ok_error_iff.symm)

theorem error_of_unwritten {error : Error} (h : request.written endpoint = .error error) :
    (∃ fault, error = .invalidRequest fault) ∨ ∃ name fault, error = .badHeader name fault := by
  unfold written at h
  rcases error_of_bind h with haddress | ⟨url, -, hmessage⟩
  · exact .inl (error_of_mapError haddress)
  · rcases error_of_bind hmessage with htarget | ⟨uri, -, hfields⟩
    · left
      unfold target at htarget
      split at htarget
      · cases htarget
      · cases htarget
        exact ⟨_, rfl⟩
    · right
      rcases error_of_bind hfields with hheaders | ⟨fields, -, hreturn⟩
      · exact Headers.error_of_toFields hheaders
      · cases hreturn

theorem exchange_of_unwritten {error : Error} (h : request.written endpoint = .error error) :
    request.exchange transport endpoint state = (⟨.error error, 0⟩, state) := by
  unfold Request.exchange
  unfold written at h
  cases hurl : request.url endpoint with
  | error fault =>
      rw [hurl] at h
      cases h
      rfl
  | ok url =>
      rw [hurl] at h
      change request.message url = .error error at h
      simp only [h]
      rfl

theorem exchange_of_written (h : request.written endpoint = .ok message) {exchange : Exchange}
    (sent : transport.send message state = (exchange, next)) :
    ∃ url, request.url endpoint = .ok url ∧ request.exchange transport endpoint state =
      ({ exchange with result := exchange.result.bind (request.accept url) }, next) := by
  obtain ⟨url, hurl, hmessage⟩ := ok_of_bind h
  refine ⟨url, hurl, ?_⟩
  unfold Request.exchange
  simp only [hurl, hmessage, bind, StateT.bind, sent]
  rfl

theorem observed_exchange (h : request.written endpoint = .ok message) {sent : Exchange}
    (events : List Observation) (send : transport.send message state = (sent, next)) :
    request.exchange transport.observed endpoint (events, state) =
      ((request.exchange transport endpoint state).1, (events ++ [.send message sent], next)) := by
  obtain ⟨url, hurl, run⟩ := exchange_of_written h send
  obtain ⟨other, hother, observed⟩ := exchange_of_written h (observed_send events send)
  obtain rfl := Except.ok.inj (hurl.symm.trans hother)
  rw [observed, run]

theorem execute_of_unwritten {error : Error} (h : request.written endpoint = .error error) :
    request.execute transport endpoint state = .error error state := by
  simp only [execute, Remote.ofState, bind, EStateM.bind, exchange_of_unwritten h]
  rfl

theorem execute_of_written (h : request.written endpoint = .ok message) {exchange : Exchange}
    (sent : transport.send message state = (exchange, next)) :
    ∃ url, request.url endpoint = .ok url ∧
      request.execute transport endpoint state =
        match exchange.result.bind (request.accept url) with
        | .ok response => .ok response next
        | .error error => .error error next := by
  obtain ⟨url, hurl, run⟩ := exchange_of_written h sent
  refine ⟨url, hurl, ?_⟩
  simp only [execute, Remote.ofState, bind, EStateM.bind, run]
  cases exchange.result.bind (request.accept url) <;> rfl

theorem attempt_execute (transport : Transport σ) (endpoint : Url) (request : Request) (state : σ) :
    (request.execute transport endpoint).attempt state =
      ((request.exchange transport endpoint state).1.result,
        (request.exchange transport endpoint state).2) := by
  rw [execute, Remote.attempt_bind, Remote.attempt_ofState]
  exact Remote.attempt_ofExcept _

theorem exchange_onSecond {τ : Type} (transport : Transport σ) (endpoint : Url)
    (request : Request) (first : τ) (state : σ) :
    request.exchange transport.onSecond endpoint (first, state) =
      ((request.exchange transport endpoint state).1,
        (first, (request.exchange transport endpoint state).2)) := by
  unfold Request.exchange
  cases request.url endpoint with
  | error error => rfl
  | ok url =>
      cases hmessage : request.message url with
      | error error => simp only [hmessage]; rfl
      | ok message => simp only [hmessage]; rfl

theorem attempt_execute_onSecond {τ : Type} (transport : Transport σ) (endpoint : Url)
    (request : Request) (first : τ) (state : σ) :
    (request.execute transport.onSecond endpoint).attempt (first, state) =
      (((request.execute transport endpoint).attempt state).1,
        (first, ((request.execute transport endpoint).attempt state).2)) := by
  simp only [attempt_execute, exchange_onSecond]

/-! ## Observed executions -/

/-- Whether the answer is one that the request takes. -/
structure Accepts (request : Request) (response : Http.Response) : Prop where
  expected : request.isExpected response.status = true
  drained : request.drains = true → response.body.drain = .ok ()

/-- What is made of an answer that is taken. -/
def taken (request : Request) (response : Http.Response) : Http.Response :=
  if request.drains then { response with body := .empty } else response

/-- Why an answer is not taken. -/
inductive Refusal (request : Request) (response : Http.Response) : Error → Prop
  | unexpected {unexpected : UnexpectedStatus}
      (status : request.isExpected response.status = false) :
      Refusal request response (.unexpectedStatus unexpected)
  | undrained {fault : IoFault} (drains : request.drains = true)
      (unread : response.body.drain = .error (.io fault)) : Refusal request response (.io fault)

theorem Refusal.not_accepts {response : Http.Response} {error : Error}
    (refusal : request.Refusal response error) : ¬request.Accepts response := by
  intro accepts
  cases refusal with
  | unexpected status =>
      rw [accepts.expected] at status
      exact nomatch status
  | undrained drains unread =>
      rw [accepts.drained drains] at unread
      exact nomatch unread

theorem accept_cases (request : Request) (url : Url) (response : Http.Response) :
    request.Accepts response ∧ request.accept url response = .ok (request.taken response) ∨
      ∃ error, request.Refusal response error ∧ request.accept url response = .error error := by
  unfold accept taken
  cases hexpected : request.isExpected response.status with
  | false => exact .inr ⟨_, .unexpected hexpected, rfl⟩
  | true =>
      cases hdrains : request.drains with
      | false => exact .inl ⟨⟨hexpected, fun h => by simp [hdrains] at h⟩, rfl⟩
      | true =>
          rcases response.body.drain_cases with hdrain | ⟨fault, hdrain⟩
          · refine .inl ⟨⟨hexpected, fun _ => hdrain⟩, ?_⟩
            simp [hdrain, bind, Except.bind, pure, Except.pure]
          · refine .inr ⟨.io fault, .undrained hdrains hdrain, ?_⟩
            simp [hdrain, bind, Except.bind]

/-- What becomes of the exchange of a message: its answer is taken, or it is not. -/
inductive Concluded (request : Request) : Exchange → Exchange → Prop
  | unanswered {error : Error} {pulled : Nat} :
      Concluded request ⟨.error error, pulled⟩ ⟨.error error, pulled⟩
  | refused {error : Error} {response : Http.Response} {pulled : Nat}
      (refusal : request.Refusal response error) :
      Concluded request ⟨.ok response, pulled⟩ ⟨.error error, pulled⟩
  | accepted {response : Http.Response} {pulled : Nat} (accepts : request.Accepts response) :
      Concluded request ⟨.ok response, pulled⟩ ⟨.ok (request.taken response), pulled⟩

theorem accept_concluded (request : Request) (url : Url) (exchange : Exchange) :
    request.Concluded exchange
      { exchange with result := exchange.result.bind (request.accept url) } := by
  obtain ⟨result, pulled⟩ := exchange
  cases result with
  | error error => exact .unanswered
  | ok response =>
      simp only [Except.bind]
      rcases request.accept_cases url response with ⟨accepts, taken⟩ | ⟨error, refusal, taken⟩
      · rw [taken]
        exact .accepted accepts
      · rw [taken]
        exact .refused refusal

theorem exchange_cases (transport : Transport σ) (request : Request) (endpoint : Url) (state : σ) :
    (∃ error, request.written endpoint = .error error ∧
      request.exchange transport endpoint state = (⟨.error error, 0⟩, state)) ∨
    ∃ message sent concluded next, request.written endpoint = .ok message ∧
      transport.send message state = (sent, next) ∧
      request.exchange transport endpoint state = (concluded, next) ∧
      request.Concluded sent concluded := by
  cases hwritten : request.written endpoint with
  | error error => exact .inl ⟨error, rfl, exchange_of_unwritten hwritten⟩
  | ok message =>
      obtain ⟨url, -, run⟩ := exchange_of_written hwritten
        (rfl : transport.send message state = ((transport.send message state).1, _))
      exact .inr ⟨message, _, _, _, rfl, rfl, run, request.accept_concluded url _⟩

/-- How executing a request ends, by what was sent for it. -/
inductive Executed (request : Request) (endpoint : Url) :
    Except Error Http.Response → List (Http.Request × Exchange) → Prop
  | unwritten {error : Error} (unwritten : request.written endpoint = .error error) :
      Executed request endpoint (.error error) []
  | unanswered {error : Error} {message : Http.Request} {pulled : Nat}
      (written : request.written endpoint = .ok message) :
      Executed request endpoint (.error error) [(message, ⟨.error error, pulled⟩)]
  | refused {error : Error} {message : Http.Request} {response : Http.Response} {pulled : Nat}
      (written : request.written endpoint = .ok message)
      (refusal : request.Refusal response error) :
      Executed request endpoint (.error error) [(message, ⟨.ok response, pulled⟩)]
  | accepted {message : Http.Request} {response : Http.Response} {pulled : Nat}
      (written : request.written endpoint = .ok message) (accepts : request.Accepts response) :
      Executed request endpoint (.ok (request.taken response)) [(message, ⟨.ok response, pulled⟩)]

theorem executed_answers (transport : Transport σ) (request : Request) (endpoint : Url)
    (events : List Observation) (state : σ) :
    ∃ result new last,
      (request.execute transport.observed endpoint).attempt (events, state) =
        (result, (events ++ new, last)) ∧
      Executed request endpoint result (Observation.sends new) ∧
      transport.Answers (Observation.sends new) state last := by
  rw [attempt_execute]
  rcases request.exchange_cases transport.observed endpoint (events, state) with
    ⟨error, unwritten, run⟩ | ⟨message, sent, concluded, next, written, send, run, conclusion⟩
  · refine ⟨.error error, [], state, ?_, .unwritten unwritten, rfl⟩
    rw [run, List.append_nil]
  · obtain ⟨last, answered, rfl⟩ := Transport.of_observed send
    refine ⟨concluded.result, [.send message sent], last, ?_, ?_, last, answered, rfl⟩
    · rw [run]
    · cases conclusion with
      | unanswered => exact .unanswered written
      | refused refusal => exact .refused written refusal
      | accepted accepts => exact .accepted written accepts

theorem execute_executed (transport : Transport σ) (request : Request) (endpoint : Url)
    (events : List Observation) (state : σ) :
    ∃ result new last,
      (request.execute transport.observed endpoint).attempt (events, state) =
        (result, (events ++ new, last)) ∧
      Executed request endpoint result (Observation.sends new) := by
  obtain ⟨result, new, last, run, executed, -⟩ :=
    executed_answers transport request endpoint events state
  exact ⟨result, new, last, run, executed⟩

end Request

end ObjectStorage
