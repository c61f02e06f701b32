import ObjectStorage.Proofs.Connection.Protocol

/-!
# Records change nothing

A connection over an observed transport answers every request as the connection over the transport
itself does, and leaves the same behind, so that what is shown of the one is shown of the other.
-/

namespace ObjectStorage

variable {σ τ υ α : Type}

/-! ## Refinement -/

/-- Whether a transport answers as another one does on what `forget` leaves of the state. -/
def Transport.Refines (transport : Transport τ) (plain : Transport σ) (forget : τ → σ) : Prop :=
  ∀ ⦃message : Http.Request⦄ ⦃state next : τ⦄ ⦃exchange : Exchange⦄,
    transport.send message state = (exchange, next) →
    plain.send message (forget state) = (exchange, forget next)

def Remote.Refines (operation : Remote τ α) (plain : Remote σ α) (forget : τ → σ) : Prop :=
  ∀ ⦃state next : τ⦄ ⦃result : Except Error α⦄, operation.attempt state = (result, next) →
    plain.attempt (forget state) = (result, forget next)

theorem Remote.Refines.map {β : Type} {operation : Remote τ α} {plain : Remote σ α}
    {forget : τ → σ} (refines : operation.Refines plain forget) (change : α → β) :
    (change <$> operation).Refines (change <$> plain) forget := by
  intro state next result run
  rw [Remote.attempt_map] at run ⊢
  cases ran : operation.attempt state with
  | mk answer reached =>
  rw [ran] at run
  cases run
  rw [refines ran]

structure Authenticator.Refines (authenticator : Authenticator τ) (plain : Authenticator σ)
    (forget : τ → σ) : Prop where
  token : authenticator.token.Refines plain.token forget
  reauthenticate : ∀ rejected,
    (authenticator.reauthenticate rejected).Refines (plain.reauthenticate rejected) forget

section

variable {transport : Transport τ} {plain : Transport σ} {forget : τ → σ}

theorem Transport.observed_refines (transport : Transport σ) :
    transport.observed.Refines transport Prod.snd := by
  rintro message ⟨events, state⟩ next exchange sent
  obtain ⟨last, below, rfl⟩ := Transport.of_observed sent
  exact below

theorem Transport.Refines.refines_onSecond (refines : transport.Refines plain forget) :
    (transport.onSecond (τ := υ)).Refines plain.onSecond (Prod.map id forget) := by
  rintro message ⟨first, state⟩ next exchange sent
  obtain ⟨last, below, rfl⟩ := Transport.of_onSecond sent
  simp [Transport.onSecond, refines below]

theorem Transport.Refines.refines_recorded {transport : Transport (τ × List Observation × σ)}
    {plain : Transport (τ × σ)} (refines : transport.Refines plain (Prod.map id Prod.snd)) :
    transport.recorded.Refines plain Prod.snd := by
  rintro message ⟨log, first, state⟩ next exchange sent
  obtain ⟨answer, reached, events, last, run⟩ : ∃ answer reached events last,
      transport.send message (first, [], state) = (answer, (reached, events, last)) :=
    ⟨_, _, _, _, rfl⟩
  simp only [Transport.recorded, run] at sent
  cases sent
  exact refines run

end

/-! ## Requests with a token -/

section

variable {transport : Transport τ} {plain : Transport σ} {authenticator : Authenticator τ}
  {other : Authenticator σ} {forget : τ → σ} {userAgent : String}

theorem Relay.relay_plain (sends : transport.Refines plain forget)
    (gives : authenticator.Refines other forget) {request : Http.Request} {state last : τ}
    {exchange : Exchange}
    (relay : Relay transport authenticator userAgent request state exchange last) :
    Relay plain other userAgent request (forget state) exchange (forget last) := by
  cases relay with
  | noToken asked => exact .noToken (gives.token asked)
  | unsendable asked unsigned => exact .unsendable (gives.token asked) unsigned
  | failed asked signed sent => exact .failed (gives.token asked) signed (sends sent)
  | answered asked signed sent final =>
      exact .answered (gives.token asked) signed (sends sent) final
  | undrained asked signed sent rejected undrained =>
      exact .undrained (gives.token asked) signed (sends sent) rejected undrained
  | notRenewed asked signed sent rejected drained renewed =>
      exact .notRenewed (gives.token asked) signed (sends sent) rejected drained
        (gives.reauthenticate _ renewed)
  | unsendableAgain asked signed sent rejected drained renewed unsigned =>
      exact .unsendableAgain (gives.token asked) signed (sends sent) rejected drained
        (gives.reauthenticate _ renewed) unsigned
  | sentAgain asked signed sent rejected drained renewed signedAgain again =>
      exact .sentAgain (gives.token asked) signed (sends sent) rejected drained
        (gives.reauthenticate _ renewed) signedAgain (sends again)

theorem Transport.Refines.refines_authorized (sends : transport.Refines plain forget)
    (gives : authenticator.Refines other forget) :
    (transport.authorized authenticator userAgent).Refines (plain.authorized other userAgent)
      forget := by
  intro message state next exchange sent
  exact ((relay_of_send sent).relay_plain sends gives).send_eq

private theorem Authenticator.static_refines (token : String) (forget : τ → σ) :
    (Authenticator.static token).Refines (Authenticator.static token) forget where
  token := by
    rintro state next result ⟨⟩
    rfl
  reauthenticate rejected := by
    rintro state next result ⟨⟩
    rfl

end

/-! ## Sessions -/

namespace Swauth

variable {swauth : Swauth} {transport : Transport τ} {plain : Transport σ} {forget : τ → σ}

theorem authenticate_refines (sends : transport.Refines plain forget) :
    (swauth.authenticate transport).Refines (swauth.authenticate plain) forget := by
  intro state next result asked
  rw [attempt_authenticate] at asked ⊢
  cases written : swauth.request with
  | error error =>
      simp only [written] at asked
      cases asked
      rfl
  | ok message =>
      simp only [written] at asked
      cases asked
      dsimp only
      rw [sends rfl]

theorem renew_refines (sends : transport.Refines plain forget) :
    (swauth.renew transport).Refines (swauth.renew plain) (Prod.map id forget) := by
  rintro ⟨before, state⟩ next result asked
  rw [Prod.map_apply, attempt_renew]
  rw [attempt_renew] at asked
  cases run : (swauth.authenticate transport).attempt state with
  | mk answer reached =>
  rw [authenticate_refines sends run]
  rw [run] at asked
  cases answer with
  | error error =>
      cases asked
      rfl
  | ok session =>
      cases asked
      rfl

private theorem session_refines (sends : transport.Refines plain forget) :
    (swauth.session transport).Refines (swauth.session plain) (Prod.map id forget) := by
  rintro ⟨before, state⟩ next result asked
  unfold Swauth.session at asked ⊢
  rw [Remote.attempt_bind, Remote.attempt_get] at asked ⊢
  cases before with
  | none => exact renew_refines sends asked
  | some session =>
      cases asked
      rfl

private theorem sessionAfter_refines (sends : transport.Refines plain forget) (rejected : String) :
    (swauth.sessionAfter transport rejected).Refines (swauth.sessionAfter plain rejected)
      (Prod.map id forget) := by
  rintro ⟨before, state⟩ next result asked
  unfold Swauth.sessionAfter at asked ⊢
  rw [Remote.attempt_bind, Remote.attempt_get] at asked ⊢
  cases before with
  | none => exact renew_refines sends asked
  | some session =>
      dsimp only [Prod.map_apply, id] at asked ⊢
      split at asked
      · next other =>
          rw [if_pos other]
          cases asked
          rfl
      · next same =>
          rw [if_neg same]
          exact (renew_refines sends asked :)

private theorem authenticator_refines (swauth : Swauth) (sends : transport.Refines plain forget) :
    (swauth.authenticator transport).Refines (swauth.authenticator plain)
      (Prod.map id forget) where
  token := (session_refines sends).map _
  reauthenticate rejected := (sessionAfter_refines sends rejected).map _

end Swauth

/-! ## Connections -/

namespace Connection

/-- Connecting failed with the same error, or gave connections to one account that agree. -/
inductive Agree :
    Except Error (Connection (List Observation × σ)) → Except Error (Connection σ) → Prop
  | error (error : Error) : Agree (.error error) (.error error)
  | ok (account : Account) {transport : Transport (Option Session × List Observation × σ)}
      {plain : Transport (Option Session × σ)}
      (refines : transport.recorded.Refines plain Prod.snd) :
      Agree (.ok ⟨account, transport⟩) (.ok ⟨account, plain⟩)

theorem Agree.of_refines (site : Except Error Site)
    {transport : Transport (Option Session × List Observation × σ)}
    {plain : Transport (Option Session × σ)}
    (refines : transport.Refines plain (Prod.map id Prod.snd)) :
    Agree (site.map fun site => ⟨Account.ofSite site, transport⟩)
      (site.map fun site => ⟨Account.ofSite site, plain⟩) := by
  cases site with
  | error error => exact .error error
  | ok site => exact .ok _ refines.refines_recorded

/--
Connecting comes to the same with a record and without, and the connection, recorded or not, to the
same answers.
-/
theorem outcome_refines (config : Config) (transport : Transport σ) (state : σ) :
    ∃ result, (connectOver config transport).attempt (none, state) =
        (result, ((outcome config transport state).session,
          (outcome config transport state).state)) ∧
      Agree (outcome config transport state).result result := by
  unfold outcome
  cases credentials : config.credentials with
  | error fault =>
      rw [attempt_connectOver_of_error credentials, attempt_connectOver_of_error credentials]
      exact ⟨_, rfl, .error _⟩
  | ok given =>
  have below := Transport.Refines.refines_onSecond (υ := Option Session) transport.observed_refines
  cases given with
  | token storageUrl token =>
      rw [attempt_connectOver_of_token credentials, attempt_connectOver_of_token credentials]
      refine ⟨_, rfl, ?_⟩
      cases readUrl storageUrl with
      | error error => exact .error error
      | ok endpoint =>
          exact .of_refines _ (below.refines_authorized (Authenticator.static_refines token _))
  | user authUrl user key =>
      rw [attempt_connectOver_of_user credentials, attempt_connectOver_of_user credentials]
      cases readUrl authUrl with
      | error error => exact ⟨_, rfl, .error error⟩
      | ok url =>
      dsimp only
      cases run : (Swauth.authenticate ⟨url, user, key⟩ transport.observed).attempt ([], state) with
      | mk answer reached =>
      rw [Swauth.authenticate_refines transport.observed_refines run]
      cases answer with
      | error error => exact ⟨_, rfl, .error error⟩
      | ok session =>
          exact ⟨_, rfl, .of_refines _ (below.refines_authorized
            (Swauth.authenticator_refines _ transport.observed_refines))⟩

end Connection

end ObjectStorage
