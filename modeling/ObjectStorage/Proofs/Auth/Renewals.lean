import ObjectStorage.Proofs.Connection.Sessions
import ObjectStorage.Proofs.Runs

/-!
# The session of an authenticator

An authenticator is asked for its token, for the storage URL and for another token than a rejected
one.  However these are mixed, the session is that of the latest auth request that succeeded: one
is sent only if there is no session or if it is the token of the session that was rejected, and
one that fails leaves the session as it was.
-/

namespace ObjectStorage.Swauth

variable {σ : Type}

/-! ## What an answer comes to -/

/-- The token that an answer gives, in either of two fields. -/
def givenToken? (response : Http.Response) : Option String :=
  (fieldText? response.fields "x-auth-token").or (fieldText? response.fields "x-storage-token")

/-- What an answer is that was read to its end and has a status of success. -/
structure IsGood (response : Http.Response) : Prop where
  drained : response.body.drain = .ok ()
  success : response.status.isSuccess = true

/-- How an auth request ends once it was sent: in one of seven errors, or with a session. -/
inductive Concludes (swauth : Swauth) : Exchange → Except Error Session → Prop
  | unanswered {error : Error} {pulled : Nat} :
      Concludes swauth ⟨.error error, pulled⟩ (.error error)
  | undrained {response : Http.Response} {pulled : Nat} {fault : IoFault}
      (undrained : response.body.drain = .error (.io fault)) :
      Concludes swauth ⟨.ok response, pulled⟩ (.error (.io fault))
  | rejected {response : Http.Response} {pulled : Nat} (drained : response.body.drain = .ok ())
      (status : response.status = .unauthorized ∨ response.status = .forbidden) :
      Concludes swauth ⟨.ok response, pulled⟩
        (.error (.auth (.rejected swauth.user response.status)))
  | unsuccessful {response : Http.Response} {pulled : Nat}
      (drained : response.body.drain = .ok ())
      (other : ¬(response.status = .unauthorized ∨ response.status = .forbidden))
      (status : response.status.isSuccess = false) :
      Concludes swauth ⟨.ok response, pulled⟩
        (.error (.auth (.answered swauth.authUrl.text response.status)))
  | noToken {response : Http.Response} {pulled : Nat} (good : IsGood response)
      (missing : givenToken? response = none) :
      Concludes swauth ⟨.ok response, pulled⟩ (.error (.auth .noToken))
  | noStorageUrl {response : Http.Response} {pulled : Nat} {token : String}
      (good : IsGood response) (given : givenToken? response = some token)
      (missing : fieldText? response.fields "x-storage-url" = none) :
      Concludes swauth ⟨.ok response, pulled⟩ (.error (.auth .noStorageUrl))
  | invalidStorageUrl {response : Http.Response} {pulled : Nat} {token text : String}
      {fault : Url.Fault} (good : IsGood response) (given : givenToken? response = some token)
      (stated : fieldText? response.fields "x-storage-url" = some text)
      (unparsed : Url.parse text = .error fault) :
      Concludes swauth ⟨.ok response, pulled⟩ (.error (.auth (.invalidStorageUrl text fault)))
  | opened {response : Http.Response} {pulled : Nat} {token text : String} {storageUrl : Url}
      (good : IsGood response) (given : givenToken? response = some token)
      (stated : fieldText? response.fields "x-storage-url" = some text)
      (parsed : Url.parse text = .ok storageUrl) :
      Concludes swauth ⟨.ok response, pulled⟩ (.ok ⟨token, storageUrl⟩)

private theorem readAnswer_of_drained {swauth : Swauth} {response : Http.Response}
    (drained : response.body.drain = .ok ()) :
    swauth.readAnswer response =
      (swauth.open? response.status response.fields).mapError .auth := by
  rw [readAnswer, drained]
  rfl

theorem concludes_opened (swauth : Swauth) (exchange : Exchange) :
    Concludes swauth exchange (swauth.opened exchange) := by
  obtain ⟨result, pulled⟩ := exchange
  cases result with
  | error error => exact .unanswered
  | ok response =>
  change Concludes swauth _ (swauth.readAnswer response)
  rcases response.body.drain_cases with drained | ⟨fault, undrained⟩
  · rw [readAnswer_of_drained drained, open?]
    split
    · next status => exact .rejected drained status
    · next other =>
    cases success : response.status.isSuccess with
    | false => exact .unsuccessful drained other success
    | true =>
    have good : IsGood response := ⟨drained, success⟩
    simp only [Bool.not_true, Bool.false_eq_true, if_false]
    split
    · next missing => exact .noToken good missing
    · next token given =>
    split
    · next missing => exact .noStorageUrl good given missing
    · next text stated =>
    split
    · next storageUrl parsed => exact .opened good given stated parsed
    · next fault unparsed => exact .invalidStorageUrl good given stated unparsed
  · rw [readAnswer, undrained]
    exact .undrained undrained

/-! ## What is asked -/

inductive Ask where
  | token
  | storageUrl
  | reauthenticate (rejected : String)

/-- What is given of a session. -/
inductive Part where
  | token (token : String)
  | storageUrl (url : Url)

namespace Ask

def part (session : Session) : Ask → Part
  | .storageUrl => .storageUrl session.storageUrl
  | .token | .reauthenticate _ => .token session.token

def perform (swauth : Swauth) (transport : Transport σ) :
    Ask → Remote (Option Session × σ) Part
  | .token => .token <$> (swauth.authenticator transport).token
  | .storageUrl => .storageUrl <$> swauth.storageUrl transport
  | .reauthenticate rejected => .token <$> (swauth.authenticator transport).reauthenticate rejected

/-- The session there is, if it can be used for what is asked. -/
def usable? (held : Option Session) : Ask → Option Session
  | .token | .storageUrl => held
  | .reauthenticate rejected => held.filter fun session => session.token ≠ rejected

theorem usable?_eq_none_iff {held : Option Session} {ask : Ask} :
    ask.usable? held = none ↔
      held = none ∨ ∃ session, held = some session ∧ ask = .reauthenticate session.token := by
  cases held with
  | none => cases ask <;> simp [usable?]
  | some session =>
      cases ask with
      | token => simp [usable?]
      | storageUrl => simp [usable?]
      | reauthenticate rejected =>
          by_cases same : session.token = rejected
          · simp [usable?, Option.filter_some, same]
          · simp [usable?, Option.filter_some, same, Ne.symm same]

private theorem eq_of_usable? {held : Option Session} {ask : Ask} {session : Session}
    (h : ask.usable? held = some session) : held = some session := by
  cases ask with
  | token => exact h
  | storageUrl => exact h
  | reauthenticate rejected => exact (Option.filter_eq_some_iff.mp h).1

/-- All three ways of asking are one: use the session there is, or authenticate. -/
theorem attempt_perform (swauth : Swauth) (transport : Transport σ) (ask : Ask)
    (held : Option Session) (state : σ) :
    (ask.perform swauth transport).attempt (held, state) =
      match ask.usable? held with
      | some session => (.ok (ask.part session), (held, state))
      | none =>
          match (swauth.authenticate transport).attempt state with
          | (.ok session, next) => (.ok (ask.part session), (some session, next))
          | (.error error, next) => (.error error, (held, next)) := by
  cases ask with
  | token =>
      simp only [perform, authenticator, Swauth.session, Remote.attempt_map, Remote.attempt_bind,
        Remote.attempt_get]
      cases held with
      | some session => rfl
      | none =>
          simp only [usable?, attempt_renew]
          rcases (swauth.authenticate transport).attempt state with ⟨_ | _, next⟩ <;> rfl
  | storageUrl =>
      simp only [perform, Swauth.storageUrl, Swauth.session, Remote.attempt_map,
        Remote.attempt_bind, Remote.attempt_get]
      cases held with
      | some session => rfl
      | none =>
          simp only [usable?, attempt_renew]
          rcases (swauth.authenticate transport).attempt state with ⟨_ | _, next⟩ <;> rfl
  | reauthenticate rejected =>
      simp only [perform, authenticator, Swauth.sessionAfter, Remote.attempt_map,
        Remote.attempt_bind, Remote.attempt_get]
      cases held with
      | none =>
          simp only [usable?, Option.filter_none, attempt_renew]
          rcases (swauth.authenticate transport).attempt state with ⟨_ | _, next⟩ <;> rfl
      | some session =>
          by_cases same : session.token = rejected
          · simp only [usable?, same, ne_eq, not_true_eq_false, decide_false, if_false,
              Option.filter_some, Bool.false_eq_true, attempt_renew]
            rcases (swauth.authenticate transport).attempt state with ⟨_ | _, next⟩ <;> rfl
          · simp only [usable?, same, ne_eq, not_false_eq_true, decide_true, if_true,
              Option.filter_some]
            rfl

end Ask

/-! ## One call -/

structure Turn where
  ask : Ask
  before : Option Session
  result : Except Error Part
  sends : Sends
  after : Option Session

def Ask.turn (swauth : Swauth) (transport : Transport σ) (ask : Ask) :
    StateM (Option Session × σ) Turn := fun (before, state) =>
  let (result, (after, (events, state))) :=
    (ask.perform swauth transport.observed).attempt (before, ([], state))
  (⟨ask, before, result, Observation.sends events, after⟩, (after, state))

/-- What one call does to the session, if the auth request can be written. -/
inductive Step (swauth : Swauth) (auth : Http.Request) :
    Option Session → Turn → Option Session → Prop
  | kept {ask : Ask} {held : Option Session} {session : Session}
      (usable : ask.usable? held = some session) :
      Step swauth auth held ⟨ask, held, .ok (ask.part session), [], held⟩ held
  | failed {ask : Ask} {held : Option Session} {answer : Exchange} {error : Error}
      (unusable : ask.usable? held = none) (failed : swauth.opened answer = .error error) :
      Step swauth auth held ⟨ask, held, .error error, [(auth, answer)], held⟩ held
  | renewed {ask : Ask} {held : Option Session} {answer : Exchange} {session : Session}
      (unusable : ask.usable? held = none) (opened : swauth.opened answer = .ok session) :
      Step swauth auth held
        ⟨ask, held, .ok (ask.part session), [(auth, answer)], some session⟩ (some session)

variable {swauth : Swauth} {auth : Http.Request}

theorem turn_step (written : swauth.request = .ok auth) (transport : Transport σ) (ask : Ask)
    (state : Option Session × σ) :
    Step swauth auth state.1 (ask.turn swauth transport state).1
      (ask.turn swauth transport state).2.1 := by
  obtain ⟨held, state⟩ := state
  unfold Ask.turn
  simp only [Ask.attempt_perform]
  cases usable : ask.usable? held with
  | some session => exact .kept usable
  | none =>
      cases sent : transport.send auth state with
      | mk answer next =>
      simp only [attempt_authenticate, written, observed_send [] sent]
      cases opened : swauth.opened answer with
      | error error => exact .failed usable opened
      | ok session => exact .renewed usable opened

/-! ## Runs -/

/-- The sessions that were opened, in their order. -/
def sessionsOf (swauth : Swauth) (sends : Sends) : List Session :=
  sends.filterMap fun send => (swauth.opened send.2).toOption

def latest (swauth : Swauth) (sends : Sends) : Option Session :=
  (swauth.sessionsOf sends).getLast?

/-- What holds of a call, given what was sent before it. -/
structure Turn.IsSound (swauth : Swauth) (auth : Http.Request) (earlier : Sends) (turn : Turn) :
    Prop where
  before : turn.before = swauth.latest earlier
  after : turn.after = swauth.latest (earlier ++ turn.sends)
  single : turn.sends = [] ∨ ∃ answer, turn.sends = [(auth, answer)]
  asked : turn.sends ≠ [] ↔ turn.before = none ∨
    ∃ session, turn.before = some session ∧ turn.ask = .reauthenticate session.token
  unasked : turn.sends = [] → turn.after = turn.before ∧ ∃ part, turn.result = .ok part
  concluded : ∀ send ∈ turn.sends, Concludes swauth send.2 (swauth.opened send.2)
  failed : ∀ send ∈ turn.sends, ∀ error, swauth.opened send.2 = .error error →
    turn.after = turn.before ∧ turn.result = .error error
  renewed : ∀ send ∈ turn.sends, ∀ session, swauth.opened send.2 = .ok session →
    turn.after = some session ∧ turn.result = .ok (turn.ask.part session)
  given : ∀ part, turn.result = .ok part →
    ∃ session, turn.after = some session ∧ part = turn.ask.part session

/-- What holds of the calls of a run. -/
structure Renewals (swauth : Swauth) (auth : Http.Request) (run : List Turn) : Prop where
  sound : ∀ before turn after, run = before ++ turn :: after →
    turn.IsSound swauth auth (before.flatMap Turn.sends)
  once : ∀ before row after rejected, run = before ++ row ++ after →
    (∀ turn ∈ row, turn.ask = .reauthenticate rejected) →
    (∀ session, (swauth.sessionsOf (row.flatMap Turn.sends)).head? = some session →
      session.token ≠ rejected) →
    (swauth.sessionsOf (row.flatMap Turn.sends)).length ≤ 1

section

variable {held next : Option Session} {turn : Turn} {run : List Turn}

theorem sessionsOf_append (swauth : Swauth) (first second : Sends) :
    swauth.sessionsOf (first ++ second) = swauth.sessionsOf first ++ swauth.sessionsOf second :=
  List.filterMap_append

theorem sessionsOf_failed {answer : Exchange} {error : Error}
    (failed : swauth.opened answer = .error error) : swauth.sessionsOf [(auth, answer)] = [] := by
  simp [sessionsOf, failed, Except.toOption]

theorem sessionsOf_opened {answer : Exchange} {session : Session}
    (opened : swauth.opened answer = .ok session) :
    swauth.sessionsOf [(auth, answer)] = [session] := by
  simp [sessionsOf, opened, Except.toOption]

theorem Step.held_eq (step : Step swauth auth held turn next) :
    next = (swauth.latest turn.sends).or held := by
  cases step with
  | kept => rfl
  | failed _ failed => simp [latest, sessionsOf_failed failed]
  | renewed _ opened => simp [latest, sessionsOf_opened opened]

theorem latest_append (swauth : Swauth) (first second : Sends) :
    swauth.latest (first ++ second) = (swauth.latest second).or (swauth.latest first) := by
  rw [latest, sessionsOf_append, List.getLast?_append]
  rfl

theorem held_eq_of_path (path : Path (Step swauth auth) held run next) :
    next = (swauth.latest (run.flatMap Turn.sends)).or held := by
  induction path with
  | refl => rfl
  | next step _ ih => rw [ih, step.held_eq, List.flatMap_cons, latest_append, Option.or_assoc]

theorem Step.turn_isSound {earlier : Sends} (step : Step swauth auth held turn next)
    (before : held = swauth.latest earlier) : turn.IsSound swauth auth earlier := by
  have after : next = swauth.latest (earlier ++ turn.sends) := by
    rw [latest_append, ← before]
    exact step.held_eq
  cases step with
  | @kept ask held session usable =>
      refine ⟨before, after, .inl rfl, ?_, fun _ => ⟨rfl, _, rfl⟩, List.forall_mem_nil _,
        List.forall_mem_nil _, List.forall_mem_nil _, ?_⟩
      · rw [← Ask.usable?_eq_none_iff, usable]
        simp
      · rintro part ⟨⟩
        exact ⟨session, Ask.eq_of_usable? usable, rfl⟩
  | @failed ask held answer error unusable failed =>
      refine ⟨before, after, .inr ⟨answer, rfl⟩, ?_, nofun, ?_, ?_, ?_, nofun⟩
      · rw [← Ask.usable?_eq_none_iff]
        simp [unusable]
      · exact fun send _ => concludes_opened swauth send.2
      · intro send sent other refused
        obtain rfl := List.mem_singleton.mp sent
        cases failed.symm.trans refused
        exact ⟨rfl, rfl⟩
      · intro send sent session opened
        obtain rfl := List.mem_singleton.mp sent
        cases failed.symm.trans opened
  | @renewed ask held answer session unusable opened =>
      refine ⟨before, after, .inr ⟨answer, rfl⟩, ?_, nofun, ?_, ?_, ?_, ?_⟩
      · rw [← Ask.usable?_eq_none_iff]
        simp [unusable]
      · exact fun send _ => concludes_opened swauth send.2
      · intro send sent error failed
        obtain rfl := List.mem_singleton.mp sent
        cases opened.symm.trans failed
      · intro send sent other renewed
        obtain rfl := List.mem_singleton.mp sent
        cases opened.symm.trans renewed
        exact ⟨rfl, rfl⟩
      · rintro part ⟨⟩
        exact ⟨session, rfl, rfl⟩

/-! ## Rejected tokens -/

variable {rejected : String}

/-- Once the token of the session is another, that it is rejected opens no session. -/
private theorem sessionsOf_settled (path : Path (Step swauth auth) held run next)
    (row : ∀ turn ∈ run, turn.ask = .reauthenticate rejected) {session : Session}
    (other : session.token ≠ rejected) (settled : held = some session) :
    swauth.sessionsOf (run.flatMap Turn.sends) = [] := by
  induction path with
  | refl => rfl
  | @next first second third turn run step path ih =>
      subst settled
      have usable : turn.ask.usable? (some session) = some session := by
        simp [row turn List.mem_cons_self, Ask.usable?, other]
      cases step with
      | kept => exact ih (fun turn later => row turn (List.mem_cons_of_mem _ later)) rfl
      | failed unusable => cases usable.symm.trans unusable
      | renewed unusable => cases usable.symm.trans unusable

private theorem sessionsOf_row (path : Path (Step swauth auth) held run next)
    (row : ∀ turn ∈ run, turn.ask = .reauthenticate rejected)
    (other : ∀ session, (swauth.sessionsOf (run.flatMap Turn.sends)).head? = some session →
      session.token ≠ rejected) :
    (swauth.sessionsOf (run.flatMap Turn.sends)).length ≤ 1 := by
  induction path with
  | refl => exact Nat.zero_le _
  | @next first second third turn run step path ih =>
      have rest : ∀ turn ∈ run, turn.ask = .reauthenticate rejected :=
        fun turn later => row turn (List.mem_cons_of_mem _ later)
      rw [List.flatMap_cons, sessionsOf_append] at other ⊢
      cases step with
      | kept => exact ih rest other
      | failed unusable failed =>
          rw [sessionsOf_failed failed] at other ⊢
          exact ih rest other
      | @renewed ask held answer session unusable opened =>
          rw [sessionsOf_opened opened] at other ⊢
          have settled := sessionsOf_settled path rest (other session rfl) rfl
          simp [settled]

end

/--
However the token, the storage URL and another token are asked for, the session is the one that
was opened last, and it is what the calls give.  An auth request is sent only without a session or
when the token of the session is rejected, and one that fails changes nothing; while one token is
rejected in a row, the first session with another token is the only one that is opened.
-/
theorem session_is_latest (written : swauth.request = .ok auth) (transport : Transport σ)
    (asks : List Ask) (state : σ) :
    ∃ run last, asks.mapM (Ask.turn swauth transport) (none, state) =
        (run, (swauth.latest (run.flatMap Turn.sends), last)) ∧
      run.map Turn.ask = asks ∧ Renewals swauth auth run := by
  have path := path_of_views (turn_step written transport) asks (none, state)
  have calls : (asks.mapM (Ask.turn swauth transport) (none, state)).1.map Turn.ask = asks :=
    calls_of_turns (fun _ _ => rfl) asks (none, state)
  generalize asks.mapM (Ask.turn swauth transport) (none, state) = outcome at path calls ⊢
  obtain ⟨run, after, last⟩ := outcome
  have reached := held_eq_of_path path
  dsimp only at reached
  rw [Option.or_none] at reached
  subst reached
  refine ⟨run, last, rfl, calls, ?_, ?_⟩
  · rintro before turn after rfl
    obtain ⟨held, next, front, step, -⟩ := path.split_at
    have reached := held_eq_of_path front
    rw [Option.or_none] at reached
    exact step.turn_isSound reached
  · rintro before row after rejected rfl rejects other
    obtain ⟨next, front, -⟩ := path.exists_middle
    obtain ⟨held, -, middle⟩ := front.exists_middle
    exact sessionsOf_row middle rejects other

/-- A server that counts what it is sent and opens a session for each request but the second. -/
def countingServer : Transport Nat where
  send _ := fun count =>
    let token := Utf8.ofText (Integer.writeNat count)
    let storageUrl := Utf8.ofText "http://swift.test/v1/AUTH_test"
    let fields := (Http.Fields.none.replace "x-auth-token" token).replace "x-storage-url" storageUrl
    (⟨.ok ⟨if count = 1 then ⟨503, by decide⟩ else .ok, fields, .empty⟩, 0⟩, count + 1)

def deskUser : Swauth where
  authUrl := ⟨"http", "", "", some "swift.test", none, .segments ["auth"], none, none, false⟩
  user := "user"
  key := "key"

/-- The first renewal fails, the second opens a session, and the third finds it. -/
theorem session_is_latest_counted :
    ∃ auth run, deskUser.request = .ok auth ∧ Renewals deskUser auth run ∧
      run.map Turn.ask = [.storageUrl, .reauthenticate "0", .reauthenticate "0",
        .reauthenticate "0", .token] ∧
      (run.map fun turn => (turn.sends.length, turn.after.map Session.token)) =
        [(1, some "0"), (1, some "0"), (1, some "2"), (0, some "2"), (0, some "2")] := by
  have counted : (([.storageUrl, .reauthenticate "0", .reauthenticate "0", .reauthenticate "0",
      .token] : List Ask).mapM (Ask.turn deskUser countingServer) (none, 0)).1.map
        (fun turn => (turn.sends.length, turn.after.map Session.token)) =
      [(1, some "0"), (1, some "0"), (1, some "2"), (0, some "2"), (0, some "2")] := by
    decide +kernel
  have sendable : deskUser.request.toOption.isSome = true := by decide +kernel
  cases written : deskUser.request with
  | error error => simp [written, Except.toOption] at sendable
  | ok auth =>
      obtain ⟨run, last, ran, asks, renewals⟩ := session_is_latest written countingServer
        [.storageUrl, .reauthenticate "0", .reauthenticate "0", .reauthenticate "0", .token] 0
      rw [ran] at counted
      exact ⟨auth, run, rfl, renewals, asks, counted⟩

end ObjectStorage.Swauth
