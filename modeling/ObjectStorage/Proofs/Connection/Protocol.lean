import ObjectStorage.Connect
import ObjectStorage.Proofs.Connection.Calls
import ObjectStorage.Proofs.Connection.Sessions

/-!
# The protocol of a connection

From connecting to the last of any calls: what is sent for a token, which token a request carries,
and that no token turns out to be one that cannot be sent.
-/

namespace ObjectStorage.Connection

variable {σ : Type}

/-! ## Connecting -/

/-- What came of connecting, with all that was sent for it and what it left. -/
structure Outcome (σ : Type) where
  result : Except Error (Connection (List Observation × σ))
  sends : Sends
  session : Option Session
  state : σ

def outcome (config : Config) (transport : Transport σ) (state : σ) : Outcome σ :=
  let (result, (session, events, state)) :=
    (connectOver config transport.observed).attempt (none, [], state)
  ⟨result, Observation.sends events, session, state⟩

/-- The request for a session, or why there is none. -/
def authRequest (authUrl user key : String) : Except Error Http.Request := do
  Swauth.request ⟨← readUrl authUrl, user, key⟩

section

variable {config : Config} {authUrl user key storageUrl token : String}

theorem attempt_connectOver_of_error {fault : ConfigFault}
    (h : config.credentials = .error fault) (transport : Transport σ)
    (state : Option Session × σ) :
    (connectOver config transport).attempt state = (.error (.config fault), state) := by
  unfold connectOver
  rw [Remote.attempt_bind, Remote.attempt_ofExcept, h]
  rfl

theorem attempt_connectOver_of_token (h : config.credentials = .ok (.token storageUrl token))
    (transport : Transport σ) (state : Option Session × σ) :
    (connectOver config transport).attempt state =
      ((readUrl storageUrl).bind fun endpoint =>
        (Site.ofEndpoint endpoint config.settings).map fun site =>
          ⟨Account.ofSite site, transport.onSecond.authorized (.static token)
            (config.userAgent.getD standardUserAgent)⟩, state) := by
  unfold connectOver
  rw [Remote.attempt_bind, Remote.attempt_ofExcept, h]
  dsimp only [Except.mapError]
  rw [Remote.attempt_bind]
  unfold authenticate
  dsimp only
  rw [Remote.attempt_bind, Remote.attempt_ofExcept]
  cases readUrl storageUrl with
  | error error => rfl
  | ok endpoint =>
      change (Remote.ofExcept _ >>= _).attempt state = _
      rw [Remote.attempt_bind, Remote.attempt_ofExcept]
      dsimp only [Except.bind]
      cases Site.ofEndpoint endpoint config.settings <;> rfl

theorem attempt_connectOver_of_user (h : config.credentials = .ok (.user authUrl user key))
    (transport : Transport σ) (state : σ) :
    (connectOver config transport).attempt (none, state) =
      match readUrl authUrl with
      | .error error => (.error error, (none, state))
      | .ok url =>
          match (Swauth.authenticate ⟨url, user, key⟩ transport).attempt state with
          | (.error error, state) => (.error error, (none, state))
          | (.ok session, state) =>
              ((Site.ofEndpoint session.storageUrl config.settings).map fun site =>
                ⟨Account.ofSite site, transport.onSecond.authorized
                  (Swauth.authenticator ⟨url, user, key⟩ transport)
                  (config.userAgent.getD standardUserAgent)⟩, (some session, state)) := by
  unfold connectOver
  rw [Remote.attempt_bind, Remote.attempt_ofExcept, h]
  dsimp only [Except.mapError]
  rw [Remote.attempt_bind]
  unfold authenticate
  dsimp only
  rw [Remote.attempt_bind, Remote.attempt_ofExcept]
  cases readUrl authUrl with
  | error error => rfl
  | ok url =>
      dsimp only
      unfold Swauth.storageUrl
      rw [Remote.attempt_bind, Remote.attempt_map, Swauth.attempt_session_of_none,
        Swauth.attempt_renew]
      cases (Swauth.authenticate ⟨url, user, key⟩ transport).attempt state with
      | mk result next =>
      cases result with
      | error error => rfl
      | ok session =>
          change (Remote.ofExcept _ >>= _).attempt (some session, next) = _
          rw [Remote.attempt_bind, Remote.attempt_ofExcept]
          dsimp only
          cases Site.ofEndpoint session.storageUrl config.settings <;> rfl

end

/-! ## Runs -/

/-- What calls came to: what each failed with, and the requests that were dispatched. -/
structure Run where
  failures : List (Option Error)
  dispatches : List Dispatch

def run (connection : Connection (List Observation × σ)) (session : Option Session) (state : σ)
    (client : Client) (calls : List (Sigma (Call (List Dispatch × Option Session × σ)))) : Run :=
  let (failures, (_, dispatches, _)) :=
    Call.failures connection.transport.recorded calls (client, [], session, state)
  ⟨failures, dispatches⟩

/--
Whether this holds of all that can be done over the connection, if there is one: of every list of
calls on any client, and of what they came to.
-/
def Outcome.EveryRun (outcome : Outcome σ)
    (P : List (Sigma (Call (List Dispatch × Option Session × σ))) → Run → Prop) : Prop :=
  ∀ connection, outcome.result = .ok connection → ∀ client calls,
    (∀ call ∈ calls, call.2.VisitsThrough connection.transport.recorded) →
    P calls (connection.run outcome.session outcome.state client calls)

variable {config : Config} {transport : Transport σ} {state : σ} {session : Option Session}

/-- Over a run, every dispatch is kept to, and auth faults are of dispatches or of the caller. -/
theorem run_dispatches {connection : Connection (List Observation × σ)}
    {Holds : Sends → Option Session → Prop} {Keeps : Sends → Dispatch → Prop}
    (dispatches : Dispatches connection.transport Holds Keeps) (before : Sends)
    (holds : Holds before session) (client : Client)
    {calls : List (Sigma (Call (List Dispatch × Option Session × σ)))}
    (visits : ∀ call ∈ calls, call.2.VisitsThrough connection.transport.recorded) :
    KeepsThroughout Keeps before (connection.run session state client calls).dispatches ∧
      ∀ fault, some (.auth fault) ∈ (connection.run session state client calls).failures →
        (∃ call ∈ calls, call.2.Raises (.auth fault)) ∨
          ∃ dispatch ∈ (connection.run session state client calls).dispatches,
            dispatch.exchange.result = .error (.auth fault) := by
  obtain ⟨failures, answered, after, last, performed, answers, faults⟩ :=
    Call.failures_through visits client ([], session, state)
  obtain ⟨log, next, final, rfl, rfl, keeps, -⟩ :=
    dispatches.keepsThroughout_of_answers answers holds
  have ran : connection.run session state client calls = ⟨failures, log⟩ := by
    simp only [Connection.run, performed, List.nil_append]
  rw [ran]
  refine ⟨keeps, ?_⟩
  intro fault failed
  rcases faults fault failed with raised | ⟨send, sent, gave⟩
  · exact .inl raised
  · obtain ⟨dispatch, dispatched, rfl⟩ := List.mem_map.mp sent
    exact .inr ⟨dispatch, dispatched, gave⟩

theorem outcome_of_token {storageUrl token : String}
    (h : config.credentials = .ok (.token storageUrl token)) :
    (outcome config transport state).sends = [] ∧
      ∀ connection, (outcome config transport state).result = .ok connection →
        Dispatches connection.transport (fun _ _ => True)
          (fun _ => SentWith token (config.userAgent.getD standardUserAgent)) := by
  unfold outcome
  rw [attempt_connectOver_of_token h]
  refine ⟨rfl, ?_⟩
  intro connection connected
  obtain ⟨endpoint, -, connected⟩ := ok_of_bind connected
  cases site : Site.ofEndpoint endpoint config.settings with
  | error error => simp [site, Except.map] at connected
  | ok site =>
      simp only [site, Except.map] at connected
      cases connected
      exact static_dispatches token transport _

theorem outcome_of_user {authUrl user key : String}
    (h : config.credentials = .ok (.user authUrl user key)) :
    (∃ error, authRequest authUrl user key = .error error ∧
      (outcome config transport state).result = .error error ∧
      (outcome config transport state).sends = []) ∨
    ∃ url message answer, readUrl authUrl = .ok url ∧
      Swauth.request ⟨url, user, key⟩ = .ok message ∧
      (outcome config transport state).sends = [(message, answer)] ∧
      ((outcome config transport state).result = .error (.auth .unsendableToken) →
        answer.result = .error (.auth .unsendableToken)) ∧
      ∀ connection, (outcome config transport state).result = .ok connection →
        Swauth.Holds ⟨url, user, key⟩ [(message, answer)] (outcome config transport state).session ∧
        Dispatches connection.transport (Swauth.Holds ⟨url, user, key⟩)
          (Swauth.Dispatched ⟨url, user, key⟩ (config.userAgent.getD standardUserAgent)) := by
  unfold outcome
  rw [attempt_connectOver_of_user h]
  cases read : readUrl authUrl with
  | error error => exact .inl ⟨error, by rw [authRequest, read]; rfl, rfl, rfl⟩
  | ok url =>
  dsimp only
  rw [Swauth.attempt_authenticate]
  cases written : Swauth.request ⟨url, user, key⟩ with
  | error error => exact .inl ⟨error, by rw [authRequest, read]; exact written, rfl, rfl⟩
  | ok message =>
  right
  cases sent : transport.send message state with
  | mk answer next =>
  dsimp only
  rw [observed_send [] sent]
  refine ⟨url, message, answer, rfl, written, ?_⟩
  cases opened : Swauth.opened ⟨url, user, key⟩ answer with
  | error error =>
      refine ⟨rfl, ?_, fun connection connected => nomatch connected⟩
      rintro ⟨⟩
      exact Swauth.sendable_of_opened opened
  | ok session =>
      refine ⟨rfl, ?_, ?_⟩
      · intro failed
        exact absurd failed (IsPlain.map _ (Site.isPlain_ofEndpoint _ config.settings) _)
      · intro connection connected
        cases site : Site.ofEndpoint session.storageUrl config.settings with
        | error error => simp [site, Except.map] at connected
        | ok site =>
            simp only [site, Except.map] at connected
            cases connected
            exact ⟨Swauth.holds_of_opens ⟨written, opened⟩,
              Swauth.authorized_dispatches _ transport _⟩

/--
With user and key, connecting sends one request for a session, unless none can be made.  From then
on, whatever the transport answers and whatever calls are made: every request that is sent for a
dispatched one carries the token of the last session that was opened and the client's name, in the
place of any that it had; it is sent twice at most, and one session is asked for at most, after an
answer that rejects the token of a request that can be sent again.  That a token cannot be sent is
an error only if the transport or the caller makes it one.  With a token nothing is sent for
connecting, and never a request without that token.
-/
theorem session_protocol (config : Config) (transport : Transport σ) (state : σ) :
    match config.credentials with
    | .error _ => (outcome config transport state).sends = []
    | .ok (.user authUrl user key) =>
        (∃ error, authRequest authUrl user key = .error error ∧
          (outcome config transport state).result = .error error ∧
          (outcome config transport state).sends = []) ∨
        ∃ url message answer, readUrl authUrl = .ok url ∧
          Swauth.request ⟨url, user, key⟩ = .ok message ∧
          (outcome config transport state).sends = [(message, answer)] ∧
          ((outcome config transport state).result = .error (.auth .unsendableToken) →
            answer.result = .error (.auth .unsendableToken)) ∧
          (outcome config transport state).EveryRun fun calls run =>
            KeepsThroughout
              (Swauth.Dispatched ⟨url, user, key⟩ (config.userAgent.getD standardUserAgent))
              [(message, answer)] run.dispatches ∧
            (some (.auth .unsendableToken) ∈ run.failures →
              (∃ call ∈ calls, call.2.Raises (.auth .unsendableToken)) ∨
              ∃ dispatch ∈ run.dispatches, Gave dispatch.sends (.auth .unsendableToken))
    | .ok (.token _ token) =>
        (outcome config transport state).sends = [] ∧
        (outcome config transport state).EveryRun fun _ run =>
          ∀ dispatch ∈ run.dispatches,
            SentWith token (config.userAgent.getD standardUserAgent) dispatch := by
  split
  · next fault credentials =>
      unfold outcome
      rw [attempt_connectOver_of_error credentials]
      rfl
  · next authUrl user key credentials =>
      rcases outcome_of_user credentials with
        unwritten | ⟨url, message, answer, read, written, sends, sendable, connected⟩
      · exact .inl unwritten
      · refine .inr ⟨url, message, answer, read, written, sends, sendable, ?_⟩
        intro connection result client calls visits
        obtain ⟨holds, dispatches⟩ := connected connection result
        obtain ⟨keeps, faults⟩ := run_dispatches dispatches _ holds client visits
        refine ⟨keeps, fun failed => ?_⟩
        rcases faults _ failed with raised | ⟨dispatch, dispatched, failed⟩
        · exact .inl raised
        · obtain ⟨earlier, later, split⟩ := List.append_of_mem dispatched
          exact .inr ⟨dispatch, dispatched, (keeps earlier dispatch later split).sendable failed⟩
  · next storageUrl token credentials =>
      obtain ⟨unsent, connected⟩ := outcome_of_token credentials
      refine ⟨unsent, ?_⟩
      intro connection result client calls visits dispatch dispatched
      obtain ⟨keeps, -⟩ := run_dispatches (connected connection result) [] trivial client visits
      obtain ⟨earlier, later, split⟩ := List.append_of_mem dispatched
      exact keeps earlier dispatch later split

/-- A server that counts the sessions it opens, and rejects the token of the first. -/
def renewingServer : Transport Nat where
  send message := fun opened =>
    match message.fields.first? "x-auth-token" with
    | none =>
        let token := Utf8.ofText (Integer.writeNat opened)
        let storageUrl := Utf8.ofText "http://swift.test/v1/AUTH_test"
        (⟨.ok ⟨.ok, (Http.Fields.none.replace "x-auth-token" token).replace "x-storage-url"
          storageUrl, .empty⟩, 0⟩, opened + 1)
    | some token =>
        (⟨.ok ⟨if token = Utf8.ofText "0" then .unauthorized else .noContent, .none, .empty⟩, 0⟩,
          opened)

def userConfig : Config :=
  { Config.standard with
    authUrl := some "http://swift.test/auth"
    user := some "user"
    key := some "key"
    userAgent := some "desk" }

/-- A change with a token of the caller's own, and a visit to all containers. -/
def userCalls : List (Sigma (Call (List Dispatch × Option Session × Nat))) :=
  [⟨_, .update "a" .empty (Options.none.withHeader "X-Auth-Token" "mine")⟩,
    ⟨_, .containers "a" "" .none "all"⟩, ⟨_, .foreach "all" (fun _ => pure ()) 1⟩]

/-- The change is sent again with the token of a second session, and so is what comes after it. -/
theorem session_protocol_renewed :
    ∃ connection url message answer run,
      (outcome userConfig renewingServer 0).result = .ok connection ∧
      (∀ call ∈ userCalls, call.2.VisitsThrough connection.transport.recorded) ∧
      run = connection.run (outcome userConfig renewingServer 0).session
        (outcome userConfig renewingServer 0).state
        (Client.empty.put "a" (.account connection.account)) userCalls ∧
      (run.dispatches.map fun dispatch => dispatch.sends.map fun send =>
        (send.1.fields.first? "x-auth-token").map Utf8.decodeLossy) =
          [[some "0", none, some "1"], [some "1"]] ∧
      (outcome userConfig renewingServer 0).sends = [(message, answer)] ∧
      KeepsThroughout (Swauth.Dispatched ⟨url, "user", "key"⟩ "desk") [(message, answer)]
        run.dispatches := by
  have ran : ((outcome userConfig renewingServer 0).result.toOption.map fun connection =>
      (connection.run (outcome userConfig renewingServer 0).session
        (outcome userConfig renewingServer 0).state
        (Client.empty.put "a" (.account connection.account)) userCalls).dispatches.map
          fun dispatch => dispatch.sends.map fun send =>
            (send.1.fields.first? "x-auth-token").map Utf8.decodeLossy) =
      some [[some "0", none, some "1"], [some "1"]] := by decide +kernel
  cases result : (outcome userConfig renewingServer 0).result with
  | error error => simp [result, Except.toOption] at ran
  | ok connection =>
  have visits : ∀ call ∈ userCalls, call.2.VisitsThrough connection.transport.recorded := by
    intro call among
    simp only [userCalls, List.mem_cons, List.not_mem_nil, or_false] at among
    rcases among with rfl | rfl | rfl
    · trivial
    · trivial
    · exact fun item state => ⟨[], rfl⟩
  rcases session_protocol userConfig renewingServer 0 with
    ⟨error, -, failed, -⟩ | ⟨url, message, answer, -, -, sends, -, everyRun⟩
  · cases result.symm.trans failed
  · refine ⟨connection, url, message, answer, _, rfl, visits, rfl, ?_, sends,
      (everyRun connection result _ _ visits).1⟩
    simpa only [result, Except.toOption, Option.map_some, Option.some.injEq] using ran

end ObjectStorage.Connection
