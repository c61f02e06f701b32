import ObjectStorage.Proofs.Address.Endpoint
import ObjectStorage.Proofs.Execution

/-!
# Answers to requests

A request that can be built is sent once, as it was built.  Its answer is taken or refused by the
status alone; whether the body can be read decides only about an answer that is taken and drained.
-/

namespace ObjectStorage

/-! ## Bodies that break off -/

namespace Body

/-- Why the chunks of the body cannot all be read, if they cannot. -/
def fault? (body : Body) : Option IoFault := body.toStream.failure.map .stated

private theorem drain_of_fault?_none {body : Body} (readable : body.fault? = none) :
    body.drain = .ok () :=
  drain_of_ended (Option.map_eq_none_iff.mp readable)

private theorem drain_of_fault?_some {body : Body} {fault : IoFault}
    (failing : body.fault? = some fault) : body.drain = .error (.io fault) := by
  obtain ⟨message, broken, rfl⟩ := Option.map_eq_some_iff.mp failing
  exact drain_of_broken broken

end Body

theorem Error.isStatus_iff {error : Error} {status : Http.Status} :
    error.isStatus status = true ↔ error.status? = some status := by
  unfold Error.isStatus
  exact beq_iff_eq

namespace Request

variable {σ : Type} {request : Request} {endpoint url : Url} {uri : Http.Uri} {fields : Http.Fields}

/-! ## What is sent -/

theorem written_of_parts (address : request.url endpoint = .ok url)
    (target : Http.Uri.parse url.text = .ok uri)
    (headers : request.options.headers.toFields = .ok fields) :
    request.written endpoint = .ok ⟨request.method, uri, .http11, fields, request.body⟩ := by
  have hits : Request.target url = .ok uri := by
    unfold Request.target
    rw [target]
  unfold written message
  rw [address]
  simp only [bind, Except.bind, hits, headers, pure, Except.pure]

/-! ## What is made of the answer -/

/-- Whether the status is one that the request names, if it names any. -/
def Takes (request : Request) (status : Http.Status) : Prop :=
  request.expected = [] ∨ status ∈ request.expected

theorem isExpected_iff {status : Http.Status} :
    request.isExpected status = true ↔ request.Takes status := by
  simp [isExpected, Takes]

/-- What a request whose address is known comes to, by the answer. -/
structure Judges (request : Request) (url : Url) (response : Http.Response)
    (result : Except Error Http.Response) : Prop where
  untouched : request.Takes response.status → request.drains = false → result = .ok response
  drained : request.Takes response.status → request.drains = true → response.body.fault? = none →
    result = .ok ⟨response.status, response.fields, .empty⟩
  unread : request.Takes response.status → request.drains = true →
    ∀ fault, response.body.fault? = some fault → result = .error (.io fault)
  refused : ¬request.Takes response.status → result = .error (.unexpectedStatus
    ⟨request.method, url.text, request.expected, response.status, snippetOf response.body⟩)
  reported : ¬request.Takes response.status → ∃ error, result = .error error ∧
    error.status? = some response.status ∧
    (∀ status, error.isStatus status = true ↔ status = response.status) ∧
    (error.isNotFound = true ↔ response.status = .notFound)

theorem accept_of_refused {response : Http.Response} (refused : ¬request.Takes response.status)
    (url : Url) : request.accept url response = .error (.unexpectedStatus
      ⟨request.method, url.text, request.expected, response.status, snippetOf response.body⟩) := by
  have unexpected : request.isExpected response.status = false :=
    Bool.eq_false_iff.mpr fun expected => refused (isExpected_iff.mp expected)
  simp [accept, unexpected]

private theorem judges_accept (request : Request) (url : Url) (response : Http.Response) :
    request.Judges url response (request.accept url response) where
  untouched takes keeps := by
    simp [accept, isExpected_iff.mpr takes, keeps]
  drained takes drains readable := by
    simp [accept, isExpected_iff.mpr takes, drains, Body.drain_of_fault?_none readable, bind,
      Except.bind, pure, Except.pure]
  unread takes drains fault failing := by
    simp [accept, isExpected_iff.mpr takes, drains, Body.drain_of_fault?_some failing, bind,
      Except.bind]
  refused refused := accept_of_refused refused url
  reported refused := by
    refine ⟨_, accept_of_refused refused url, rfl, fun status => ?_, ?_⟩
    · rw [Error.isStatus_iff]
      exact ⟨fun same => (Option.some.inj same).symm, fun same => congrArg some same.symm⟩
    · rw [Error.isNotFound, Error.isStatus_iff]
      exact Option.some_inj

/--
A request that can be built is sent once, as it was built.  What the transport fails with is passed
on, and an answer is judged by its status: if that is not taken, the error tells it whether or not
the body can be read, and if it is, the body is drained only where the request says so.
-/
theorem answer_judged_by_status (transport : Transport σ) (address : request.url endpoint = .ok url)
    (target : Http.Uri.parse url.text = .ok uri)
    (headers : request.options.headers.toFields = .ok fields) (events : List Observation)
    (state : σ) :
    ∃ exchange next result,
      let message : Http.Request := ⟨request.method, uri, .http11, fields, request.body⟩
      transport.send message state = (exchange, next) ∧
      (request.execute transport endpoint).attempt state = (result, next) ∧
      (request.execute transport.observed endpoint).attempt (events, state) =
        (result, (events ++ [.send message exchange], next)) ∧
      (∀ error, exchange.result = .error error → result = .error error) ∧
      ∀ response, exchange.result = .ok response → request.Judges url response result := by
  have written := written_of_parts address target headers
  cases sent : transport.send ⟨request.method, uri, .http11, fields, request.body⟩ state with
  | mk exchange next =>
  obtain ⟨same, haddress, run⟩ := exchange_of_written written sent
  obtain rfl : url = same := Except.ok.inj (address.symm.trans haddress)
  refine ⟨exchange, next, exchange.result.bind (request.accept url), sent, ?_, ?_, ?_, ?_⟩
  · rw [attempt_execute, run]
  · rw [attempt_execute, observed_exchange written events sent, run]
  · intro error failed
    rw [failed]
    rfl
  · intro response answered
    rw [answered]
    exact request.judges_accept url response

/-- Gives no answer but a missing object, and breaks off the body. -/
def brokenServer : Transport Unit where
  send _ := fun state =>
    (⟨.ok ⟨.notFound, .none, .stream ⟨[Utf8.ofText "<html>"], some "connection reset"⟩⟩, 0⟩, state)

/-- The deletion of an object, whose answer is drained. -/
def leafDeletion : Request :=
  { Request.plain .delete .none [.noContent] with container := some "c", object := some "o" }

/-- The body of an answer that is not taken does not have to be read. -/
theorem answer_judged_by_status_unread :
    ∃ error last, (leafDeletion.execute brokenServer.observed accountUrl).attempt ([], ()) =
        (.error error, last) ∧ error.isNotFound = true := by
  obtain ⟨url, uri, fields, address, target, headers⟩ : ∃ url uri fields,
      leafDeletion.url accountUrl = .ok url ∧ Http.Uri.parse url.text = .ok uri ∧
        leafDeletion.options.headers.toFields = .ok fields :=
    ⟨{ accountUrl with path := .segments ["v1", "AUTH_test", "c", "o"] },
      ⟨some "http", "swift.test", "/v1/AUTH_test/c/o", none⟩, .none, by decide +kernel,
      by decide +kernel, by decide +kernel⟩
  obtain ⟨exchange, next, result, sent, -, run, -, judges⟩ :=
    answer_judged_by_status brokenServer address target headers [] ()
  cases sent
  have refused : ¬leafDeletion.Takes .notFound := by
    simp [Takes, leafDeletion, Request.plain, Http.Status.notFound, Http.Status.noContent]
  obtain ⟨error, rfl, -, -, found⟩ := (judges _ rfl).reported refused
  exact ⟨error, _, run, found.mpr rfl⟩

end Request

end ObjectStorage
