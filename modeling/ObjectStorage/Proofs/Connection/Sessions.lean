import ObjectStorage.Auth.Swauth
import ObjectStorage.Proofs.Auth.Protocol
import ObjectStorage.Proofs.Connection.Dispatches
import ObjectStorage.Proofs.Connection.Through
import ObjectStorage.Proofs.Headers.Sending

/-!
# Requests in a session

An open session stays open: it is only ever replaced by the session that a later auth request opens.
So every request carries the token that the auth endpoint gave last, and this can be sent, since it
was read of a field.
-/

namespace ObjectStorage

variable {σ : Type}

theorem Transport.of_onSecond {τ : Type} {transport : Transport σ} {request : Http.Request}
    {exchange : Exchange} {first : τ} {state : σ} {reached : τ × σ}
    (h : transport.onSecond.send request (first, state) = (exchange, reached)) :
    ∃ next, transport.send request state = (exchange, next) ∧ reached = (first, next) := by
  cases h
  exact ⟨_, rfl, rfl⟩

/-- Requests that have a token; a request for a token has none. -/
def Http.Request.hasToken (request : Http.Request) : Bool :=
  (request.fields.get? "x-auth-token").isSome

theorem IsSigned.hasToken_eq {userAgent token : String} {request message : Http.Request}
    (signed : IsSigned userAgent token request message) : message.hasToken = true := by
  obtain ⟨tokenValue, agentValue, -, -, fields⟩ := signed.fields
  rw [Http.Request.hasToken, fields, if_pos rfl]
  rfl

namespace Swauth

variable {swauth : Swauth} {transport : Transport σ} {session fresh : Session} {state : σ}

def opened (swauth : Swauth) (exchange : Exchange) : Except Error Session :=
  exchange.result.bind swauth.readAnswer

theorem attempt_authenticate (swauth : Swauth) (transport : Transport σ) (state : σ) :
    (swauth.authenticate transport).attempt state =
      match swauth.request with
      | .error error => (.error error, state)
      | .ok message =>
          (swauth.opened (transport.send message state).1, (transport.send message state).2) := by
  unfold Swauth.authenticate
  rw [Remote.attempt_bind, Remote.attempt_ofExcept]
  cases swauth.request with
  | error error => rfl
  | ok message =>
      dsimp only
      unfold Transport.request
      rw [Remote.attempt_bind, Remote.attempt_bind, Remote.attempt_ofState]
      dsimp only
      rw [Remote.attempt_ofExcept, opened]
      cases (transport.send message state).1.result with
      | error error => rfl
      | ok response => exact Remote.attempt_ofExcept _

theorem attempt_renew (swauth : Swauth) (transport : Transport σ) (before : Option Session)
    (state : σ) :
    (swauth.renew transport).attempt (before, state) =
      match (swauth.authenticate transport).attempt state with
      | (.ok session, state) => (.ok session, (some session, state))
      | (.error error, state) => (.error error, (before, state)) := by
  unfold Swauth.renew
  rw [Remote.attempt_bind, Remote.attempt_onSecond]
  cases (swauth.authenticate transport).attempt state with
  | mk result next => cases result <;> rfl

theorem attempt_session_of_none (swauth : Swauth) (transport : Transport σ) (state : σ) :
    (swauth.session transport).attempt (none, state) =
      (swauth.renew transport).attempt (none, state) := by
  unfold Swauth.session
  rw [Remote.attempt_bind, Remote.attempt_get]

private theorem attempt_reauthenticate_of_open (swauth : Swauth) (transport : Transport σ)
    (session : Session) (state : σ) :
    ((swauth.authenticator transport).reauthenticate session.token).attempt (some session, state) =
      match (swauth.authenticate transport).attempt state with
      | (.ok fresh, state) => (.ok fresh.token, (some fresh, state))
      | (.error error, state) => (.error error, (some session, state)) := by
  unfold Swauth.authenticator Swauth.sessionAfter
  dsimp only
  rw [Remote.attempt_map, Remote.attempt_bind, Remote.attempt_get]
  simp only [ne_eq, not_true_eq_false, if_false]
  rw [attempt_renew]
  cases (swauth.authenticate transport).attempt state with
  | mk result next => cases result <;> rfl

/-- What asking for another token than that of the session comes to. -/
inductive Renewal (swauth : Swauth) (transport : Transport σ) (session : Session) (state : σ) :
    Except Error String → Option Session × σ → Prop
  | unwritten {error : Error} (unwritten : swauth.request = .error error) :
      Renewal swauth transport session state (.error error) (some session, state)
  | refused {auth : Http.Request} {answer : Exchange} {next : σ} {error : Error}
      (written : swauth.request = .ok auth) (sent : transport.send auth state = (answer, next))
      (refused : swauth.opened answer = .error error) :
      Renewal swauth transport session state (.error error) (some session, next)
  | renewed {auth : Http.Request} {answer : Exchange} {next : σ} {fresh : Session}
      (written : swauth.request = .ok auth) (sent : transport.send auth state = (answer, next))
      (opened : swauth.opened answer = .ok fresh) :
      Renewal swauth transport session state (.ok fresh.token) (some fresh, next)

theorem reauthenticate_renewal {result : Except Error String} {after : Option Session × σ}
    (h : ((swauth.authenticator transport).reauthenticate session.token).attempt
      (some session, state) = (result, after)) :
    Renewal swauth transport session state result after := by
  rw [attempt_reauthenticate_of_open, attempt_authenticate] at h
  cases written : swauth.request with
  | error error =>
      rw [written] at h
      cases h
      exact .unwritten written
  | ok auth =>
      simp only [written] at h
      cases sent : transport.send auth state with
      | mk answer next =>
      simp only [sent] at h
      cases opened : swauth.opened answer with
      | error error =>
          simp only [opened] at h
          cases h
          exact .refused written sent opened
      | ok fresh =>
          simp only [opened] at h
          cases h
          exact .renewed written sent opened

/-! ## Tokens that can be sent -/

private theorem token_of_open? {status : Http.Status} {fields : Http.Fields}
    (h : swauth.open? status fields = .ok session) : Http.fieldValue? session.token ≠ none := by
  have read : ∀ {name : String} {text : String}, fieldText? fields name = some text →
      Http.fieldValue? text ≠ none := by
    intro name text h
    obtain ⟨visible, -⟩ := Option.filter_eq_some_iff.mp h
    obtain ⟨value, -, visible⟩ := Option.bind_eq_some_iff.mp visible
    exact Http.fieldValue?_of_visible visible
  unfold open? at h
  split at h
  · exact nomatch h
  split at h
  · exact nomatch h
  split at h
  · exact nomatch h
  next token given =>
  split at h
  · exact nomatch h
  split at h
  · cases h
    rcases Option.or_eq_some_iff.mp given with given | ⟨-, given⟩ <;> exact read given
  · exact nomatch h

theorem token_of_opened {exchange : Exchange} (h : swauth.opened exchange = .ok session) :
    Http.fieldValue? session.token ≠ none := by
  obtain ⟨response, -, h⟩ := ok_of_bind h
  obtain ⟨-, -, h⟩ := ok_of_bind h
  cases opens : swauth.open? response.status response.fields with
  | error fault =>
      rw [opens] at h
      cases h
  | ok session =>
      rw [opens] at h
      cases h
      exact token_of_open? opens

theorem sendable_of_opened {exchange : Exchange}
    (h : swauth.opened exchange = .error (.auth .unsendableToken)) :
    exchange.result = .error (.auth .unsendableToken) := by
  rcases error_of_bind h with failed | ⟨response, -, h⟩
  · exact failed
  · rcases error_of_bind h with failed | ⟨-, -, h⟩
    · exact absurd failed (response.body.isPlain_drain _)
    · unfold open? at h
      repeat' split at h
      all_goals cases h

private theorem isPlain_request (swauth : Swauth) : IsPlain swauth.request := by
  have sendable : ∀ (text : String) (fault : ConfigFault), IsPlain (sendable text fault) := by
    intro text fault
    unfold Swauth.sendable
    split
    · exact .ok _
    · exact .error nofun
  refine .bind ?_ fun uri => .bind (sendable _ _) fun user => .bind (sendable _ _) fun key => .ok _
  unfold Swauth.target
  split
  · exact .ok _
  · exact .error nofun

/-! ## One request -/

/-- How a request is served in an open session, and the session that is open after it. -/
inductive Served (swauth : Swauth) (userAgent : String) (session : Session)
    (request : Http.Request) : Sends → Exchange → Session → Prop
  | unsendable :
      Served swauth userAgent session request []
        ⟨.error (.badHeader "User-Agent" .invalidValue), 0⟩ session
  | sent {message : Http.Request} {answer exchange : Exchange}
      (signed : IsSigned userAgent session.token request message)
      (passed : ∀ fault, exchange.result = .error (.auth fault) →
        answer.result = .error (.auth fault)) :
      Served swauth userAgent session request [(message, answer)] exchange session
  | refused {message auth : Http.Request} {response : Http.Response} {pulled : Nat}
      {answer : Exchange} {error : Error}
      (signed : IsSigned userAgent session.token request message)
      (rejected : IsRejected request response) (written : swauth.request = .ok auth)
      (refused : swauth.opened answer = .error error) :
      Served swauth userAgent session request
        [(message, ⟨.ok response, pulled⟩), (auth, answer)] ⟨.error error, pulled⟩ session
  | renewed {message auth replay : Http.Request} {response : Http.Response} {pulled : Nat}
      {answer exchange : Exchange} {fresh : Session}
      (signed : IsSigned userAgent session.token request message)
      (rejected : IsRejected request response) (written : swauth.request = .ok auth)
      (opened : swauth.opened answer = .ok fresh)
      (signedAgain : IsSigned userAgent fresh.token request replay) :
      Served swauth userAgent session request
        [(message, ⟨.ok response, pulled⟩), (auth, answer), (replay, exchange)] exchange fresh

variable {userAgent : String} {request : Http.Request}

theorem send_served {after : Option Session × σ} {exchange : Exchange}
    (sendable : Http.fieldValue? session.token ≠ none)
    (run : (transport.onSecond.authorized (swauth.authenticator transport) userAgent).send request
      (some session, state) = (exchange, after)) :
    ∃ sends fresh last, after = (some fresh, last) ∧ Http.fieldValue? fresh.token ≠ none ∧
      transport.Answers sends state last ∧
      Served swauth userAgent session request sends exchange fresh := by
  have agent : ∀ {token : String} {error : Error}, Http.fieldValue? token ≠ none →
      request.withToken userAgent token = .error error →
      error = .badHeader "User-Agent" .invalidValue := by
    intro token error valid unsigned
    rcases fieldValue?_of_unsigned unsigned with ⟨invalid, -⟩ | ⟨-, -, header⟩
    · exact absurd invalid valid
    · exact header
  cases relay_of_send run with
  | noToken asked => cases asked
  | unsendable asked unsigned =>
      cases asked
      cases agent sendable unsigned
      exact ⟨[], session, state, rfl, sendable, rfl, .unsendable⟩
  | failed asked signed sent =>
      cases asked
      obtain ⟨next, below, rfl⟩ := Transport.of_onSecond sent
      exact ⟨[(_, _)], session, next, rfl, sendable, ⟨next, below, rfl⟩,
        .sent (isSigned_of_withToken signed) fun fault failed => failed⟩
  | answered asked signed sent final =>
      cases asked
      obtain ⟨next, below, rfl⟩ := Transport.of_onSecond sent
      exact ⟨[(_, _)], session, next, rfl, sendable, ⟨next, below, rfl⟩,
        .sent (isSigned_of_withToken signed) fun fault failed => failed⟩
  | @undrained _ _ response _ _ _ _ asked signed sent rejected undrained =>
      cases asked
      obtain ⟨next, below, rfl⟩ := Transport.of_onSecond sent
      refine ⟨[(_, _)], session, next, rfl, sendable, ⟨next, below, rfl⟩,
        .sent (isSigned_of_withToken signed) ?_⟩
      rintro fault ⟨⟩
      exact absurd undrained (response.body.isPlain_drain fault)
  | notRenewed asked signed sent rejected drained renewed =>
      cases asked
      obtain ⟨next, below, rfl⟩ := Transport.of_onSecond sent
      have signed := isSigned_of_withToken signed
      cases reauthenticate_renewal renewed with
      | unwritten unwritten =>
          refine ⟨[(_, _)], session, next, rfl, sendable, ⟨next, below, rfl⟩, .sent signed ?_⟩
          rintro fault ⟨⟩
          exact absurd unwritten (swauth.isPlain_request fault)
      | refused written asked refused =>
          exact ⟨[(_, _), (_, _)], session, _, rfl, sendable, ⟨next, below, _, asked, rfl⟩,
            .refused signed rejected written refused⟩
  | unsendableAgain asked signed sent rejected drained renewed unsigned =>
      cases asked
      obtain ⟨next, below, rfl⟩ := Transport.of_onSecond sent
      cases reauthenticate_renewal renewed with
      | renewed written asked opened =>
          -- The client's name could be sent the first time.
          have named := (fieldValue?_of_signed signed).2
          rcases fieldValue?_of_unsigned unsigned with ⟨invalid, -⟩ | ⟨-, invalid, -⟩
          · exact absurd invalid (token_of_opened opened)
          · exact absurd invalid named
  | sentAgain asked signed sent rejected drained renewed signedAgain again =>
      cases asked
      obtain ⟨next, below, rfl⟩ := Transport.of_onSecond sent
      cases reauthenticate_renewal renewed with
      | renewed written asked opened =>
          obtain ⟨last, belowAgain, rfl⟩ := Transport.of_onSecond again
          exact ⟨[(_, _), (_, _), (_, _)], _, last, rfl, token_of_opened opened,
            ⟨next, below, _, asked, last, belowAgain, rfl⟩,
            .renewed (isSigned_of_withToken signed) rejected written opened
              (isSigned_of_withToken signedAgain)⟩

/-! ## All that is sent -/

/-- Whether what was sent is a request for a session, and its answer opens this one. -/
def Opens (swauth : Swauth) (send : Http.Request × Exchange) (session : Session) : Prop :=
  swauth.request = .ok send.1 ∧ swauth.opened send.2 = .ok session

/-- The token of the session that was opened last. -/
def LastGave (swauth : Swauth) (sends : Sends) (token : String) : Prop :=
  ∃ earlier send later session, sends = earlier ++ send :: later ∧ swauth.Opens send session ∧
    session.token = token ∧ ∀ other ∈ later, ∀ session, ¬swauth.Opens other session

/-- What a dispatch keeps to, after all that was sent before. -/
structure Dispatched (swauth : Swauth) (userAgent : String) (before : Sends)
    (dispatch : Dispatch) : Prop where
  sends_at_most_twice : (dispatch.sends.filter (·.1.hasToken)).length ≤ 2
  asks_at_most_once : (dispatch.sends.filter (!·.1.hasToken)).length ≤ 1
  signed : ∀ earlier send later, dispatch.sends = earlier ++ send :: later →
    send.1.hasToken = true → ∃ token, swauth.LastGave (before ++ earlier) token ∧
      IsSigned userAgent token dispatch.request send.1
  /-- Another token is asked for only after an answer that rejects the one there is. -/
  asks : ∀ earlier send later, dispatch.sends = earlier ++ send :: later →
    send.1.hasToken = false → swauth.request = .ok send.1 ∧ ∃ message response pulled,
      earlier = [(message, ⟨.ok response, pulled⟩)] ∧ message.hasToken = true ∧
      IsRejected dispatch.request response
  sendable : dispatch.exchange.result = .error (.auth .unsendableToken) →
    Gave dispatch.sends (.auth .unsendableToken)

theorem hasToken_of_request {auth : Http.Request} (h : swauth.request = .ok auth) :
    auth.hasToken = false := by
  obtain ⟨uri, -, h⟩ := ok_of_bind h
  obtain ⟨user, -, h⟩ := ok_of_bind h
  obtain ⟨key, -, h⟩ := ok_of_bind h
  cases h
  simp [Http.Request.hasToken, Http.Fields.replace, Http.Fields.none, Dictionary.get?_insert,
    Dictionary.get?_empty]

private theorem not_opens_of_hasToken {send : Http.Request × Exchange} (h : send.1.hasToken = true)
    (session : Session) : ¬swauth.Opens send session := by
  rintro ⟨written, -⟩
  exact nomatch (hasToken_of_request written).symm.trans h

section

variable {before sends : Sends} {token : String}

theorem LastGave.append (last : swauth.LastGave before token)
    (quiet : ∀ send ∈ sends, ∀ session, ¬swauth.Opens send session) :
    swauth.LastGave (before ++ sends) token := by
  obtain ⟨earlier, send, later, session, rfl, opens, given, since⟩ := last
  refine ⟨earlier, send, later ++ sends, session, by simp, opens, given, ?_⟩
  intro other hother
  rcases List.mem_append.mp hother with among | after
  · exact since other among
  · exact quiet other after

theorem lastGave_of_opens {send : Http.Request × Exchange} (opens : swauth.Opens send session)
    (before : Sends) : swauth.LastGave (before ++ [send]) session.token :=
  ⟨before, send, [], session, rfl, opens, rfl, fun _ other => nomatch other⟩

theorem LastGave.append_signed {message : Http.Request} {exchange : Exchange}
    (last : swauth.LastGave before token) (signed : IsSigned userAgent token request message) :
    swauth.LastGave (before ++ [(message, exchange)]) token := by
  refine last.append fun send sent => ?_
  rw [List.mem_singleton.mp sent]
  exact not_opens_of_hasToken signed.hasToken_eq

end

theorem Served.lastGave_append {before sends : Sends} {exchange : Exchange}
    (served : swauth.Served userAgent session request sends exchange fresh)
    (last : swauth.LastGave before session.token) :
    swauth.LastGave (before ++ sends) fresh.token := by
  cases served with
  | unsendable => rwa [List.append_nil]
  | sent signed => exact last.append_signed signed
  | @refused message auth response pulled answer error signed rejected written refused =>
      rw [List.append_cons]
      refine (last.append_signed signed).append fun send sent other opens => ?_
      rw [List.mem_singleton.mp sent] at opens
      exact nomatch refused.symm.trans opens.2
  | @renewed message auth replay response pulled answer exchange fresh signed rejected written
      opened signedAgain =>
      rw [List.append_cons, List.append_cons]
      exact (lastGave_of_opens ⟨written, opened⟩ _).append_signed signedAgain

theorem Served.dispatched_of_lastGave {before sends : Sends} {exchange : Exchange}
    (served : swauth.Served userAgent session request sends exchange fresh)
    (last : swauth.LastGave before session.token) :
    swauth.Dispatched userAgent before ⟨request, sends, exchange⟩ := by
  cases served with
  | unsendable =>
      exact ⟨Nat.zero_le 2, Nat.zero_le 1, forall_split_nil.mpr trivial,
        forall_split_nil.mpr trivial, nofun⟩
  | sent signed passed =>
      have bears := signed.hasToken_eq
      refine ⟨by simp [bears], by simp [bears], ?_, ?_, ?_⟩
      · simp only [forall_split_cons, forall_split_nil, List.append_nil, and_true]
        exact fun _ => ⟨_, last, signed⟩
      · simp only [forall_split_cons, forall_split_nil, bears, Bool.true_eq_false, false_imp_iff,
          and_true]
      · intro failed
        exact ⟨_, List.mem_singleton_self _, passed _ failed⟩
  | refused signed rejected written refused =>
      have bears := signed.hasToken_eq
      have bare := hasToken_of_request written
      refine ⟨by simp [bears, bare], by simp [bears, bare], ?_, ?_, ?_⟩
      · simp only [forall_split_cons, forall_split_nil, bare, Bool.false_eq_true, false_imp_iff,
          List.append_nil, and_true]
        exact fun _ => ⟨_, last, signed⟩
      · simp only [forall_split_cons, forall_split_nil, bears, Bool.true_eq_false, false_imp_iff,
          true_and, and_true]
        exact fun _ => ⟨written, _, _, _, rfl, bears, rejected⟩
      · rintro ⟨⟩
        exact ⟨_, List.mem_cons_of_mem _ (List.mem_singleton_self _), sendable_of_opened refused⟩
  | @renewed message auth replay response pulled answer exchange fresh signed rejected written
      opened signedAgain =>
      have bears := signed.hasToken_eq
      have bare := hasToken_of_request written
      have bearsAgain := signedAgain.hasToken_eq
      refine ⟨by simp [bears, bare, bearsAgain], by simp [bears, bare, bearsAgain], ?_, ?_, ?_⟩
      · simp only [forall_split_cons, forall_split_nil, bare, Bool.false_eq_true, false_imp_iff,
          List.append_nil, true_and, and_true]
        refine ⟨fun _ => ⟨_, last, signed⟩, fun _ => ⟨fresh.token, ?_, signedAgain⟩⟩
        rw [List.append_cons]
        exact lastGave_of_opens ⟨written, opened⟩ _
      · simp only [forall_split_cons, forall_split_nil, bears, bearsAgain, Bool.true_eq_false,
          false_imp_iff, true_and, and_true]
        exact fun _ => ⟨written, _, _, _, rfl, bears, rejected⟩
      · intro failed
        exact ⟨(replay, exchange), by simp, failed⟩

/-- The session is open, and its token is that given last, which can be sent. -/
structure Holds (swauth : Swauth) (before : Sends) (open? : Option Session) : Prop where
  isOpen : ∃ session, open? = some session ∧ Http.fieldValue? session.token ≠ none ∧
    swauth.LastGave before session.token

theorem holds_of_opens {send : Http.Request × Exchange} (opens : swauth.Opens send session) :
    swauth.Holds [send] (some session) :=
  ⟨session, rfl, token_of_opened opens.2, lastGave_of_opens opens []⟩

theorem authorized_dispatches (swauth : Swauth) (transport : Transport σ) (userAgent : String) :
    Dispatches
      (transport.observed.onSecond.authorized (swauth.authenticator transport.observed) userAgent)
      swauth.Holds (swauth.Dispatched userAgent) := by
  rintro before open? request state ⟨session, rfl, sendable, last⟩
  cases sent : (transport.observed.onSecond.authorized (swauth.authenticator transport.observed)
    userAgent).send request (some session, [], state) with
  | mk exchange reached =>
  obtain ⟨sends, fresh, reached, rfl, valid, answers, served⟩ := send_served sendable sent
  obtain ⟨events, final, rfl, hsends⟩ := answers.of_observed
  subst hsends
  exact ⟨exchange, some fresh, events, final, rfl, served.dispatched_of_lastGave last,
    fresh, rfl, valid, served.lastGave_append last⟩

end Swauth

/-! ## Tokens that are given -/

/-- With a token that cannot be renewed, a request is sent once at most, with this token. -/
structure SentWith (token userAgent : String) (dispatch : Dispatch) : Prop where
  sends_at_most_once : dispatch.sends.length ≤ 1
  signed : ∀ send ∈ dispatch.sends, send.1.hasToken = true ∧
    IsSigned userAgent token dispatch.request send.1

theorem static_dispatches (token : String) (transport : Transport σ) (userAgent : String) :
    Dispatches
      ((transport.observed.onSecond (τ := Option Session)).authorized (.static token) userAgent)
      (fun _ _ => True) (fun _ => SentWith token userAgent) := by
  rintro before first request state -
  obtain ⟨exchange, reached, relay⟩ := exists_relay
    ((transport.observed.onSecond (τ := Option Session))) (.static token) userAgent request
    (first, [], state)
  have run := relay.send_eq
  have once : ∀ {message : Http.Request} {answer : Exchange}
      {next : Option Session × List Observation × σ},
      request.withToken userAgent token = .ok message →
      transport.observed.onSecond.send message (first, [], state) = (answer, next) →
      ∃ events last, next = (first, events, last) ∧
        SentWith token userAgent ⟨request, Observation.sends events, exchange⟩ := by
    intro message answer next signed sent
    obtain ⟨_, below, rfl⟩ := Transport.of_onSecond sent
    obtain ⟨last, -, rfl⟩ := Transport.of_observed below
    refine ⟨_, last, rfl, Nat.le_refl 1, ?_⟩
    intro send among
    have signed := isSigned_of_withToken signed
    rw [List.mem_singleton.mp among]
    exact ⟨signed.hasToken_eq, signed⟩
  have kept : ∃ events last, reached = (first, events, last) ∧
      SentWith token userAgent ⟨request, Observation.sends events, exchange⟩ := by
    cases relay with
    | noToken asked => cases asked
    | unsendable asked unsigned =>
        cases asked
        exact ⟨[], state, rfl, Nat.zero_le 1, fun _ among => nomatch among⟩
    | failed asked signed sent =>
        cases asked
        exact once signed sent
    | answered asked signed sent final =>
        cases asked
        exact once signed sent
    | undrained asked signed sent rejected undrained =>
        cases asked
        exact once signed sent
    | notRenewed asked signed sent rejected drained renewed =>
        cases asked
        cases renewed
        exact once signed sent
    | unsendableAgain asked signed sent rejected drained renewed unsigned => cases renewed
    | sentAgain asked signed sent rejected drained renewed signedAgain again => cases renewed
  obtain ⟨events, last, rfl, keeps⟩ := kept
  exact ⟨exchange, first, events, last, run, keeps, trivial⟩

end ObjectStorage
