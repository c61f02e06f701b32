import ObjectStorage.Auth.Authorized
import ObjectStorage.Proofs.Observed

/-!
# Conversations about one request

What a transport with tokens asks of the authenticator and of the transport below it for one
request, and what it returns: one constructor for each way in which the conversation can end.
-/

namespace ObjectStorage

open Observation

variable {σ : Type}

/-- Whether the answer rejects the token of a request that can be sent again. -/
def IsRejected (request : Http.Request) (response : Http.Response) : Prop :=
  response.status = .unauthorized ∧ ∀ source, request.body ≠ .stream source

inductive Conversation (userAgent : String) (request : Http.Request) :
    List Observation → Exchange → Prop
  | noToken (error : Error) :
      Conversation userAgent request [.token (.error error)] ⟨.error error, 0⟩
  | unsendable {token : String} {error : Error}
      (unsigned : request.withToken userAgent token = .error error) :
      Conversation userAgent request [.token (.ok token)] ⟨.error error, 0⟩
  | failed {token : String} {message : Http.Request} {error : Error} {pulled : Nat}
      (signed : request.withToken userAgent token = .ok message) :
      Conversation userAgent request
        [.token (.ok token), .send message ⟨.error error, pulled⟩] ⟨.error error, pulled⟩
  | answered {token : String} {message : Http.Request} {response : Http.Response} {pulled : Nat}
      (signed : request.withToken userAgent token = .ok message)
      (final : ¬IsRejected request response) :
      Conversation userAgent request
        [.token (.ok token), .send message ⟨.ok response, pulled⟩] ⟨.ok response, pulled⟩
  | undrained {token : String} {message : Http.Request} {response : Http.Response} {pulled : Nat}
      {error : Error} (signed : request.withToken userAgent token = .ok message)
      (rejected : IsRejected request response) (undrained : response.body.drain = .error error) :
      Conversation userAgent request
        [.token (.ok token), .send message ⟨.ok response, pulled⟩] ⟨.error error, pulled⟩
  | notRenewed {token : String} {message : Http.Request} {response : Http.Response} {pulled : Nat}
      {error : Error} (signed : request.withToken userAgent token = .ok message)
      (rejected : IsRejected request response) (drained : response.body.drain = .ok ()) :
      Conversation userAgent request
        [.token (.ok token), .send message ⟨.ok response, pulled⟩,
          .renewal token (.error error)] ⟨.error error, pulled⟩
  | unsendableAgain {token fresh : String} {message : Http.Request} {response : Http.Response}
      {pulled : Nat} {error : Error} (signed : request.withToken userAgent token = .ok message)
      (rejected : IsRejected request response) (drained : response.body.drain = .ok ())
      (unsigned : request.withToken userAgent fresh = .error error) :
      Conversation userAgent request
        [.token (.ok token), .send message ⟨.ok response, pulled⟩,
          .renewal token (.ok fresh)] ⟨.error error, 0⟩
  | sentAgain {token fresh : String} {message replay : Http.Request} {response : Http.Response}
      {pulled : Nat} {exchange : Exchange}
      (signed : request.withToken userAgent token = .ok message)
      (rejected : IsRejected request response) (drained : response.body.drain = .ok ())
      (signedAgain : request.withToken userAgent fresh = .ok replay) :
      Conversation userAgent request
        [.token (.ok token), .send message ⟨.ok response, pulled⟩,
          .renewal token (.ok fresh), .send replay exchange] exchange

/-! ## One run, step by step -/

section

variable {transport : Transport σ} {authenticator : Authenticator σ} {userAgent token fresh : String}
  {request message : Http.Request} {response : Http.Response} {answer : Body} {error : Error}
  {pulled : Nat} {exchange : Exchange} {state next last : σ}

private theorem send_of_noToken (asked : authenticator.token.attempt state = (.error error, next)) :
    (transport.authorized authenticator userAgent).send request state =
      (⟨.error error, 0⟩, next) := by
  simp only [Transport.authorized, bind, StateT.bind, asked]
  rfl

private theorem sendWithToken_of_unsigned (unsigned : request.withToken userAgent token = .error
    error) :
    transport.sendWithToken userAgent token request state = (⟨.error error, 0⟩, state) := by
  simp only [Transport.sendWithToken, unsigned]
  rfl

private theorem sendWithToken_of_signed (signed : request.withToken userAgent token = .ok message) :
    transport.sendWithToken userAgent token request state = transport.send message state := by
  simp [Transport.sendWithToken, signed]

private theorem send_of_failed (asked : authenticator.token.attempt state = (.ok token, next))
    (sent : transport.sendWithToken userAgent token request next =
      (⟨.error error, pulled⟩, last)) :
    (transport.authorized authenticator userAgent).send request state =
      (⟨.error error, pulled⟩, last) := by
  simp only [Transport.authorized, bind, StateT.bind, asked, sent]
  rfl

private theorem send_of_final (asked : authenticator.token.attempt state = (.ok token, next))
    (sent : transport.sendWithToken userAgent token request next =
      (⟨.ok response, pulled⟩, last)) (final : ¬IsRejected request response) :
    (transport.authorized authenticator userAgent).send request state =
      (⟨.ok response, pulled⟩, last) := by
  have kept : ∀ replay, request.replay? = some replay → response.status ≠ .unauthorized := by
    intro replay hreplay hstatus
    apply final
    refine ⟨hstatus, ?_⟩
    intro source hbody
    simp [Http.Request.replay?, Body.copy?, hbody] at hreplay
  cases hreplay : request.replay? with
  | none =>
      simp only [Transport.authorized, bind, StateT.bind, asked, sent, hreplay]
      rfl
  | some replay =>
      simp only [Transport.authorized, bind, StateT.bind, asked, sent, hreplay, kept replay hreplay]
      rfl

private theorem send_of_rejected (asked : authenticator.token.attempt state = (.ok token, next))
    (sent : transport.sendWithToken userAgent token request next =
      (⟨.ok response, pulled⟩, last)) (rejected : IsRejected request response) :
    (transport.authorized authenticator userAgent).send request state =
      transport.retry authenticator userAgent token request response.body pulled last := by
  obtain ⟨status, whole⟩ := rejected
  have replay : request.replay? = some request := by
    unfold Http.Request.replay? Body.copy?
    cases hbody : request.body with
    | empty => simp [← hbody]
    | bytes content => simp [← hbody]
    | stream source => exact absurd hbody (whole source)
  simp [Transport.authorized, bind, StateT.bind, asked, sent, replay, status]

private theorem retry_of_undrained (undrained : answer.drain = .error error) :
    transport.retry authenticator userAgent token request answer pulled state =
      (⟨.error error, pulled⟩, state) := by
  simp only [Transport.retry, undrained]
  rfl

private theorem retry_of_notRenewed (drained : answer.drain = .ok ())
    (asked : (authenticator.reauthenticate token).attempt state = (.error error, next)) :
    transport.retry authenticator userAgent token request answer pulled state =
      (⟨.error error, pulled⟩, next) := by
  simp only [Transport.retry, drained, bind, StateT.bind, asked]
  rfl

private theorem retry_of_renewed (drained : answer.drain = .ok ())
    (asked : (authenticator.reauthenticate token).attempt state = (.ok fresh, next)) :
    transport.retry authenticator userAgent token request answer pulled state =
      transport.sendWithToken userAgent fresh request next := by
  simp [Transport.retry, drained, bind, StateT.bind, asked]

end

/--
How a request goes through a transport with tokens, from state to state: the ends of a conversation
with what each step leaves.
-/
inductive Relay (transport : Transport σ) (authenticator : Authenticator σ) (userAgent : String)
    (request : Http.Request) (state : σ) : Exchange → σ → Prop
  | noToken {error : Error} {last : σ}
      (asked : authenticator.token.attempt state = (.error error, last)) :
      Relay transport authenticator userAgent request state ⟨.error error, 0⟩ last
  | unsendable {token : String} {error : Error} {last : σ}
      (asked : authenticator.token.attempt state = (.ok token, last))
      (unsigned : request.withToken userAgent token = .error error) :
      Relay transport authenticator userAgent request state ⟨.error error, 0⟩ last
  | failed {token : String} {message : Http.Request} {error : Error} {pulled : Nat}
      {next last : σ} (asked : authenticator.token.attempt state = (.ok token, next))
      (signed : request.withToken userAgent token = .ok message)
      (sent : transport.send message next = (⟨.error error, pulled⟩, last)) :
      Relay transport authenticator userAgent request state ⟨.error error, pulled⟩ last
  | answered {token : String} {message : Http.Request} {response : Http.Response} {pulled : Nat}
      {next last : σ} (asked : authenticator.token.attempt state = (.ok token, next))
      (signed : request.withToken userAgent token = .ok message)
      (sent : transport.send message next = (⟨.ok response, pulled⟩, last))
      (final : ¬IsRejected request response) :
      Relay transport authenticator userAgent request state ⟨.ok response, pulled⟩ last
  | undrained {token : String} {message : Http.Request} {response : Http.Response} {pulled : Nat}
      {error : Error} {next last : σ}
      (asked : authenticator.token.attempt state = (.ok token, next))
      (signed : request.withToken userAgent token = .ok message)
      (sent : transport.send message next = (⟨.ok response, pulled⟩, last))
      (rejected : IsRejected request response) (undrained : response.body.drain = .error error) :
      Relay transport authenticator userAgent request state ⟨.error error, pulled⟩ last
  | notRenewed {token : String} {message : Http.Request} {response : Http.Response} {pulled : Nat}
      {error : Error} {next later last : σ}
      (asked : authenticator.token.attempt state = (.ok token, next))
      (signed : request.withToken userAgent token = .ok message)
      (sent : transport.send message next = (⟨.ok response, pulled⟩, later))
      (rejected : IsRejected request response) (drained : response.body.drain = .ok ())
      (renewed : (authenticator.reauthenticate token).attempt later = (.error error, last)) :
      Relay transport authenticator userAgent request state ⟨.error error, pulled⟩ last
  | unsendableAgain {token fresh : String} {message : Http.Request} {response : Http.Response}
      {pulled : Nat} {error : Error} {next later last : σ}
      (asked : authenticator.token.attempt state = (.ok token, next))
      (signed : request.withToken userAgent token = .ok message)
      (sent : transport.send message next = (⟨.ok response, pulled⟩, later))
      (rejected : IsRejected request response) (drained : response.body.drain = .ok ())
      (renewed : (authenticator.reauthenticate token).attempt later = (.ok fresh, last))
      (unsigned : request.withToken userAgent fresh = .error error) :
      Relay transport authenticator userAgent request state ⟨.error error, 0⟩ last
  | sentAgain {token fresh : String} {message replay : Http.Request} {response : Http.Response}
      {pulled : Nat} {exchange : Exchange} {next later renewal last : σ}
      (asked : authenticator.token.attempt state = (.ok token, next))
      (signed : request.withToken userAgent token = .ok message)
      (sent : transport.send message next = (⟨.ok response, pulled⟩, later))
      (rejected : IsRejected request response) (drained : response.body.drain = .ok ())
      (renewed : (authenticator.reauthenticate token).attempt later = (.ok fresh, renewal))
      (signedAgain : request.withToken userAgent fresh = .ok replay)
      (sentAgain : transport.send replay renewal = (exchange, last)) :
      Relay transport authenticator userAgent request state exchange last

theorem Relay.send_eq {transport : Transport σ} {authenticator : Authenticator σ}
    {userAgent : String} {request : Http.Request} {state last : σ} {exchange : Exchange}
    (relay : Relay transport authenticator userAgent request state exchange last) :
    (transport.authorized authenticator userAgent).send request state = (exchange, last) := by
  cases relay with
  | noToken asked => exact send_of_noToken asked
  | unsendable asked unsigned => exact send_of_failed asked (sendWithToken_of_unsigned unsigned)
  | failed asked signed sent =>
      exact send_of_failed asked ((sendWithToken_of_signed signed).trans sent)
  | answered asked signed sent final =>
      exact send_of_final asked ((sendWithToken_of_signed signed).trans sent) final
  | undrained asked signed sent rejected undrained =>
      exact (send_of_rejected asked ((sendWithToken_of_signed signed).trans sent) rejected).trans
        (retry_of_undrained undrained)
  | notRenewed asked signed sent rejected drained renewed =>
      exact (send_of_rejected asked ((sendWithToken_of_signed signed).trans sent) rejected).trans
        (retry_of_notRenewed drained renewed)
  | unsendableAgain asked signed sent rejected drained renewed unsigned =>
      exact (send_of_rejected asked ((sendWithToken_of_signed signed).trans sent) rejected).trans
        ((retry_of_renewed drained renewed).trans (sendWithToken_of_unsigned unsigned))
  | sentAgain asked signed sent rejected drained renewed signedAgain sentAgain =>
      exact (send_of_rejected asked ((sendWithToken_of_signed signed).trans sent) rejected).trans
        ((retry_of_renewed drained renewed).trans
          ((sendWithToken_of_signed signedAgain).trans sentAgain))

theorem exists_relay (transport : Transport σ) (authenticator : Authenticator σ)
    (userAgent : String) (request : Http.Request) (state : σ) :
    ∃ exchange last, Relay transport authenticator userAgent request state exchange last := by
  cases asked : authenticator.token.attempt state with
  | mk answer next =>
  cases answer with
  | error error => exact ⟨_, _, .noToken asked⟩
  | ok token =>
  cases signed : request.withToken userAgent token with
  | error error => exact ⟨_, _, .unsendable asked signed⟩
  | ok message =>
  cases sent : transport.send message next with
  | mk exchange later =>
  obtain ⟨result, pulled⟩ := exchange
  cases result with
  | error error => exact ⟨_, _, .failed asked signed sent⟩
  | ok response =>
  by_cases rejected : IsRejected request response
  · cases drained : response.body.drain with
    | error error => exact ⟨_, _, .undrained asked signed sent rejected drained⟩
    | ok =>
    cases renewed : (authenticator.reauthenticate token).attempt later with
    | mk answer renewal =>
    cases answer with
    | error error => exact ⟨_, _, .notRenewed asked signed sent rejected drained renewed⟩
    | ok fresh =>
    cases signedAgain : request.withToken userAgent fresh with
    | error error =>
        exact ⟨_, _, .unsendableAgain asked signed sent rejected drained renewed signedAgain⟩
    | ok replay =>
        exact ⟨_, _, .sentAgain asked signed sent rejected drained renewed signedAgain rfl⟩
  · exact ⟨_, _, .answered asked signed sent rejected⟩

theorem relay_of_send {transport : Transport σ} {authenticator : Authenticator σ}
    {userAgent : String} {request : Http.Request} {state last : σ} {exchange : Exchange}
    (h : (transport.authorized authenticator userAgent).send request state = (exchange, last)) :
    Relay transport authenticator userAgent request state exchange last := by
  obtain ⟨other, reached, relay⟩ := exists_relay transport authenticator userAgent request state
  cases relay.send_eq.symm.trans h
  exact relay

/-! ## The run -/

section

variable {transport : Transport σ} {authenticator : Authenticator σ} {state next : σ}
  (events : List Observation)

private theorem observed_token {answer : Except Error String}
    (h : authenticator.token.attempt state = (answer, next)) :
    authenticator.observed.token.attempt (events, state) =
      (answer, (events ++ [.token answer], next)) := by
  simp [Authenticator.observed, Remote.attempt_noting, h]

private theorem observed_renewal {rejected : String} {answer : Except Error String}
    (h : (authenticator.reauthenticate rejected).attempt state = (answer, next)) :
    (authenticator.observed.reauthenticate rejected).attempt (events, state) =
      (answer, (events ++ [.renewal rejected answer], next)) := by
  simp [Authenticator.observed, Remote.attempt_noting, h]

theorem Relay.exists_observed {userAgent : String} {request : Http.Request} {last : σ}
    {exchange : Exchange}
    (relay : Relay transport authenticator userAgent request state exchange last) :
    ∃ new, Relay transport.observed authenticator.observed userAgent request (events, state)
      exchange (events ++ new, last) ∧ Conversation userAgent request new exchange := by
  cases relay with
  | @noToken error _ asked => exact ⟨_, .noToken (observed_token events asked), .noToken error⟩
  | unsendable asked unsigned =>
      exact ⟨_, .unsendable (observed_token events asked) unsigned, .unsendable unsigned⟩
  | failed asked signed sent =>
      have observed := Relay.failed (observed_token events asked) signed (observed_send _ sent)
      rw [List.append_assoc] at observed
      exact ⟨_, observed, .failed signed⟩
  | answered asked signed sent final =>
      have observed := Relay.answered (observed_token events asked) signed (observed_send _ sent)
        final
      rw [List.append_assoc] at observed
      exact ⟨_, observed, .answered signed final⟩
  | undrained asked signed sent rejected undrained =>
      have observed := Relay.undrained (observed_token events asked) signed (observed_send _ sent)
        rejected undrained
      rw [List.append_assoc] at observed
      exact ⟨_, observed, .undrained signed rejected undrained⟩
  | notRenewed asked signed sent rejected drained renewed =>
      have observed := Relay.notRenewed (observed_token events asked) signed
        (observed_send _ sent) rejected drained (observed_renewal _ renewed)
      rw [List.append_assoc, List.append_assoc] at observed
      exact ⟨_, observed, .notRenewed signed rejected drained⟩
  | unsendableAgain asked signed sent rejected drained renewed unsigned =>
      have observed := Relay.unsendableAgain (observed_token events asked) signed
        (observed_send _ sent) rejected drained (observed_renewal _ renewed) unsigned
      rw [List.append_assoc, List.append_assoc] at observed
      exact ⟨_, observed, .unsendableAgain signed rejected drained unsigned⟩
  | sentAgain asked signed sent rejected drained renewed signedAgain sentAgain =>
      have observed := Relay.sentAgain (observed_token events asked) signed
        (observed_send _ sent) rejected drained (observed_renewal _ renewed) signedAgain
        (observed_send _ sentAgain)
      rw [List.append_assoc, List.append_assoc, List.append_assoc] at observed
      exact ⟨_, observed, .sentAgain signed rejected drained signedAgain⟩

end

/-- Every run is a conversation, and observing it changes nothing but the record. -/
theorem exists_conversation (transport : Transport σ) (authenticator : Authenticator σ)
    (userAgent : String) (request : Http.Request) (state : σ) :
    ∃ events exchange last,
      (transport.authorized authenticator userAgent).send request state = (exchange, last) ∧
      (transport.observed.authorized authenticator.observed userAgent).send request ([], state) =
        (exchange, (events, last)) ∧
      Conversation userAgent request events exchange := by
  obtain ⟨exchange, last, relay⟩ :=
    exists_relay transport authenticator userAgent request state
  obtain ⟨events, observed, conversation⟩ := relay.exists_observed []
  exact ⟨events, exchange, last, relay.send_eq, observed.send_eq, conversation⟩

end ObjectStorage
