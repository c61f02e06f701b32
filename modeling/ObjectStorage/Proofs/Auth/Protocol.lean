import ObjectStorage.Proofs.Auth.Conversation

/-!
# The protocol of rejected tokens

A token is asked for once, the request is sent twice at most, and the second time only after the
answer to the first has rejected the token, was drained, and the token could be renewed.  All else
is returned as it came.
-/

namespace ObjectStorage

open Observation

/-- The message is the request with the token and the client's name in the place of any others. -/
structure IsSigned (userAgent token : String) (request message : Http.Request) : Prop where
  method : message.method = request.method
  uri : message.uri = request.uri
  version : message.version = request.version
  body : message.body = request.body
  fields : ∃ tokenValue agentValue, Http.fieldValue? token = some tokenValue ∧
    Http.fieldValue? userAgent = some agentValue ∧ ∀ name, message.fields.get? name =
      if name = "x-auth-token" then some ⟨tokenValue, []⟩
      else if name = "user-agent" then some ⟨agentValue, []⟩
      else request.fields.get? name

/-- The second message is the first with another token. -/
structure IsReplay (fresh : String) (first second : Http.Request) : Prop where
  method : second.method = first.method
  uri : second.uri = first.uri
  version : second.version = first.version
  body : second.body = first.body
  fields : ∃ value, Http.fieldValue? fresh = some value ∧ ∀ name, second.fields.get? name =
    if name = "x-auth-token" then some ⟨value, []⟩ else first.fields.get? name

structure Protocol (userAgent : String) (request : Http.Request) (events : List Observation)
    (exchange : Exchange) : Prop where
  asks_once : ∃ answer, tokens events = [answer] ∧ events.head? = some (.token answer)
  sends_at_most_twice : (sends events).length ≤ 2
  first_send_iff : sends events ≠ [] ↔ ∃ token, tokens events = [.ok token] ∧
    Http.fieldValue? token ≠ none ∧ Http.fieldValue? userAgent ≠ none
  first_send : ∀ message answer, (sends events).head? = some (message, answer) →
    ∃ token, tokens events = [.ok token] ∧ IsSigned userAgent token request message
  renewal_iff : renewals events ≠ [] ↔ ∃ message response pulled,
    (sends events).head? = some (message, ⟨.ok response, pulled⟩) ∧
      IsRejected request response ∧ response.body.drain = .ok ()
  renewal : ∀ renewed ∈ renewals events,
    renewals events = [renewed] ∧ tokens events = [.ok renewed.1]
  second_send_iff : (sends events).length = 2 ↔ ∃ token fresh message response pulled,
    tokens events = [.ok token] ∧
      (sends events).head? = some (message, ⟨.ok response, pulled⟩) ∧
      response.status = .unauthorized ∧ (∀ source, request.body ≠ .stream source) ∧
      response.body.drain = .ok () ∧ renewals events = [(token, .ok fresh)] ∧
      Http.fieldValue? fresh ≠ none
  second_send : ∀ first second answer last, sends events = [(first, answer), (second, last)] →
    ∃ token fresh, IsReplay fresh first second ∧
      events = [.token (.ok token), .send first answer, .renewal token (.ok fresh),
        .send second last]
  token_error : ∀ error, tokens events = [.error error] →
    exchange.result = .error error ∧ sends events = []
  unsendable_token : ∀ token, tokens events = [.ok token] → Http.fieldValue? token = none →
    exchange.result = .error (.auth .unsendableToken) ∧ sends events = []
  unsendable_agent : ∀ token, tokens events = [.ok token] → Http.fieldValue? token ≠ none →
    Http.fieldValue? userAgent = none →
    exchange.result = .error (.badHeader "User-Agent" .invalidValue) ∧ sends events = []
  transport_error : ∀ message error pulled,
    (sends events).head? = some (message, ⟨.error error, pulled⟩) →
    exchange = ⟨.error error, pulled⟩ ∧ (sends events).length = 1 ∧ renewals events = []
  final_answer : ∀ message response pulled,
    (sends events).head? = some (message, ⟨.ok response, pulled⟩) →
    ¬IsRejected request response →
    exchange = ⟨.ok response, pulled⟩ ∧ (sends events).length = 1 ∧ renewals events = []
  drain_error : ∀ message response pulled error,
    (sends events).head? = some (message, ⟨.ok response, pulled⟩) → IsRejected request response →
    response.body.drain = .error error →
    exchange.result = .error error ∧ (sends events).length = 1 ∧ renewals events = []
  renewal_error : ∀ token error, renewals events = [(token, .error error)] →
    exchange.result = .error error ∧ (sends events).length = 1
  unsendable_renewal : ∀ token fresh, renewals events = [(token, .ok fresh)] →
    Http.fieldValue? fresh = none →
    exchange.result = .error (.auth .unsendableToken) ∧ (sends events).length = 1
  second_answer : ∀ first second answer last,
    sends events = [(first, answer), (second, last)] → exchange = last

/-! ## Signed requests -/

section

variable {userAgent token fresh : String} {request message replay : Http.Request} {error : Error}

theorem withToken_cases (userAgent token : String) (request : Http.Request) :
    (Http.fieldValue? token = none ∧
        request.withToken userAgent token = .error (.auth .unsendableToken)) ∨
      (Http.fieldValue? token ≠ none ∧ Http.fieldValue? userAgent = none ∧
        request.withToken userAgent token = .error (.badHeader "User-Agent" .invalidValue)) ∨
      ∃ tokenValue agentValue, Http.fieldValue? token = some tokenValue ∧
        Http.fieldValue? userAgent = some agentValue ∧
        request.withToken userAgent token = .ok { request with
          fields := (request.fields.replace "x-auth-token" tokenValue).replace
            "user-agent" agentValue } := by
  unfold Http.Request.withToken
  cases htoken : Http.fieldValue? token with
  | none => simp
  | some tokenValue => cases hagent : Http.fieldValue? userAgent <;> simp

theorem isSigned_of_withToken (h : request.withToken userAgent token = .ok message) :
    IsSigned userAgent token request message := by
  rcases withToken_cases userAgent token request with
    ⟨-, hsigned⟩ | ⟨-, -, hsigned⟩ | ⟨tokenValue, agentValue, htoken, hagent, hsigned⟩
  · rw [hsigned] at h
    exact nomatch h
  · rw [hsigned] at h
    exact nomatch h
  · rw [hsigned] at h
    cases h
    refine ⟨rfl, rfl, rfl, rfl, tokenValue, agentValue, htoken, hagent, ?_⟩
    intro name
    simp only [Http.Fields.replace, Dictionary.get?_insert]
    by_cases hname : name = "x-auth-token"
    · simp [hname]
    · simp [hname]

private theorem isReplay_of_withToken (first : request.withToken userAgent token = .ok message)
    (second : request.withToken userAgent fresh = .ok replay) : IsReplay fresh message replay := by
  obtain ⟨method, uri, version, body, tokenValue, agentValue, _, hagent, fields⟩ :=
    isSigned_of_withToken first
  obtain ⟨method', uri', version', body', value, agentValue', hfresh, hagent', fields'⟩ :=
    isSigned_of_withToken second
  have same : agentValue' = agentValue := by
    rw [hagent] at hagent'
    exact (Option.some.inj hagent').symm
  refine ⟨method'.trans method.symm, uri'.trans uri.symm, version'.trans version.symm,
    body'.trans body.symm, value, hfresh, ?_⟩
  intro name
  rw [fields', fields, same]
  by_cases hname : name = "x-auth-token"
  · simp [hname]
  · simp [hname]

theorem fieldValue?_of_signed (h : request.withToken userAgent token = .ok message) :
    Http.fieldValue? token ≠ none ∧ Http.fieldValue? userAgent ≠ none := by
  obtain ⟨-, -, -, -, _, _, htoken, hagent, -⟩ := isSigned_of_withToken h
  simp [htoken, hagent]

theorem fieldValue?_of_unsigned (h : request.withToken userAgent token = .error error) :
    Http.fieldValue? token = none ∧ error = .auth .unsendableToken ∨
      Http.fieldValue? token ≠ none ∧ Http.fieldValue? userAgent = none ∧
        error = .badHeader "User-Agent" .invalidValue := by
  rcases withToken_cases userAgent token request with
    ⟨htoken, hsigned⟩ | ⟨htoken, hagent, hsigned⟩ | ⟨_, _, _, _, hsigned⟩
  · rw [hsigned] at h
    cases h
    exact .inl ⟨htoken, rfl⟩
  · rw [hsigned] at h
    cases h
    exact .inr ⟨htoken, hagent, rfl⟩
  · rw [hsigned] at h
    exact nomatch h

end

/-! ## The clauses, for each end of a conversation -/

section

variable {userAgent token fresh : String} {request message replay : Http.Request}
  {response : Http.Response} {exchange : Exchange} {error : Error} {pulled : Nat}

private theorem protocol_of_noToken (error : Error) :
    Protocol userAgent request [.token (.error error)] ⟨.error error, 0⟩ where
  asks_once := ⟨.error error, rfl, rfl⟩
  sends_at_most_twice := Nat.zero_le 2
  first_send_iff := iff_of_false (fun sent => sent rfl) (by rintro ⟨_, ⟨⟩, -⟩)
  first_send := by rintro _ _ ⟨⟩
  renewal_iff := iff_of_false (fun renewed => renewed rfl) (by rintro ⟨_, _, _, ⟨⟩, -⟩)
  renewal := by rintro _ ⟨⟩
  second_send_iff := iff_of_false (by rintro ⟨⟩) (by rintro ⟨_, _, _, _, _, ⟨⟩, -⟩)
  second_send := by rintro _ _ _ _ ⟨⟩
  token_error := by
    rintro _ ⟨⟩
    exact ⟨rfl, rfl⟩
  unsendable_token := by rintro _ ⟨⟩
  unsendable_agent := by rintro _ ⟨⟩
  transport_error := by rintro _ _ _ ⟨⟩
  final_answer := by rintro _ _ _ ⟨⟩
  drain_error := by rintro _ _ _ _ ⟨⟩
  renewal_error := by rintro _ _ ⟨⟩
  unsendable_renewal := by rintro _ _ ⟨⟩
  second_answer := by rintro _ _ _ _ ⟨⟩

private theorem protocol_of_unsigned (unsigned : request.withToken userAgent token = .error error) :
    Protocol userAgent request [.token (.ok token)] ⟨.error error, 0⟩ where
  asks_once := ⟨.ok token, rfl, rfl⟩
  sends_at_most_twice := Nat.zero_le 2
  first_send_iff := by
    refine iff_of_false (fun sent => sent rfl) ?_
    rintro ⟨_, ⟨⟩, validToken, validAgent⟩
    rcases fieldValue?_of_unsigned unsigned with ⟨invalid, -⟩ | ⟨-, invalid, -⟩
    · exact validToken invalid
    · exact validAgent invalid
  first_send := by rintro _ _ ⟨⟩
  renewal_iff := iff_of_false (fun renewed => renewed rfl) (by rintro ⟨_, _, _, ⟨⟩, -⟩)
  renewal := by rintro _ ⟨⟩
  second_send_iff := iff_of_false (by rintro ⟨⟩) (by rintro ⟨_, _, _, _, _, -, ⟨⟩, -⟩)
  second_send := by rintro _ _ _ _ ⟨⟩
  token_error := by rintro _ ⟨⟩
  unsendable_token := by
    rintro _ ⟨⟩ invalid
    rcases fieldValue?_of_unsigned unsigned with ⟨-, rfl⟩ | ⟨valid, -⟩
    · exact ⟨rfl, rfl⟩
    · exact absurd invalid valid
  unsendable_agent := by
    rintro _ ⟨⟩ valid -
    rcases fieldValue?_of_unsigned unsigned with ⟨invalid, -⟩ | ⟨-, -, rfl⟩
    · exact absurd invalid valid
    · exact ⟨rfl, rfl⟩
  transport_error := by rintro _ _ _ ⟨⟩
  final_answer := by rintro _ _ _ ⟨⟩
  drain_error := by rintro _ _ _ _ ⟨⟩
  renewal_error := by rintro _ _ ⟨⟩
  unsendable_renewal := by rintro _ _ ⟨⟩
  second_answer := by rintro _ _ _ _ ⟨⟩

private theorem protocol_of_failed (signed : request.withToken userAgent token = .ok message) :
    Protocol userAgent request
      [.token (.ok token), .send message ⟨.error error, pulled⟩] ⟨.error error, pulled⟩ where
  asks_once := ⟨.ok token, rfl, rfl⟩
  sends_at_most_twice := Nat.le_succ 1
  first_send_iff :=
    iff_of_true (List.cons_ne_nil _ _) ⟨token, rfl, fieldValue?_of_signed signed⟩
  first_send := by
    rintro _ _ ⟨⟩
    exact ⟨token, rfl, isSigned_of_withToken signed⟩
  renewal_iff := iff_of_false (fun renewed => renewed rfl) (by rintro ⟨_, _, _, ⟨⟩, -⟩)
  renewal := by rintro _ ⟨⟩
  second_send_iff := iff_of_false (by rintro ⟨⟩) (by rintro ⟨_, _, _, _, _, -, ⟨⟩, -⟩)
  second_send := by rintro _ _ _ _ ⟨⟩
  token_error := by rintro _ ⟨⟩
  unsendable_token := by
    rintro _ ⟨⟩ invalid
    exact absurd invalid (fieldValue?_of_signed signed).1
  unsendable_agent := by
    rintro _ ⟨⟩ - invalid
    exact absurd invalid (fieldValue?_of_signed signed).2
  transport_error := by
    rintro _ _ _ ⟨⟩
    exact ⟨rfl, rfl, rfl⟩
  final_answer := by rintro _ _ _ ⟨⟩
  drain_error := by rintro _ _ _ _ ⟨⟩
  renewal_error := by rintro _ _ ⟨⟩
  unsendable_renewal := by rintro _ _ ⟨⟩
  second_answer := by rintro _ _ _ _ ⟨⟩

private theorem protocol_of_answered (signed : request.withToken userAgent token = .ok message)
    (final : ¬IsRejected request response) :
    Protocol userAgent request
      [.token (.ok token), .send message ⟨.ok response, pulled⟩] ⟨.ok response, pulled⟩ where
  asks_once := ⟨.ok token, rfl, rfl⟩
  sends_at_most_twice := Nat.le_succ 1
  first_send_iff :=
    iff_of_true (List.cons_ne_nil _ _) ⟨token, rfl, fieldValue?_of_signed signed⟩
  first_send := by
    rintro _ _ ⟨⟩
    exact ⟨token, rfl, isSigned_of_withToken signed⟩
  renewal_iff := by
    refine iff_of_false (fun renewed => renewed rfl) ?_
    rintro ⟨_, _, _, ⟨⟩, rejected, -⟩
    exact final rejected
  renewal := by rintro _ ⟨⟩
  second_send_iff := by
    refine iff_of_false (by rintro ⟨⟩) ?_
    rintro ⟨_, _, _, _, _, -, ⟨⟩, status, body, -⟩
    exact final ⟨status, body⟩
  second_send := by rintro _ _ _ _ ⟨⟩
  token_error := by rintro _ ⟨⟩
  unsendable_token := by
    rintro _ ⟨⟩ invalid
    exact absurd invalid (fieldValue?_of_signed signed).1
  unsendable_agent := by
    rintro _ ⟨⟩ - invalid
    exact absurd invalid (fieldValue?_of_signed signed).2
  transport_error := by rintro _ _ _ ⟨⟩
  final_answer := by
    rintro _ _ _ ⟨⟩ -
    exact ⟨rfl, rfl, rfl⟩
  drain_error := by
    rintro _ _ _ _ ⟨⟩ rejected
    exact absurd rejected final
  renewal_error := by rintro _ _ ⟨⟩
  unsendable_renewal := by rintro _ _ ⟨⟩
  second_answer := by rintro _ _ _ _ ⟨⟩

private theorem protocol_of_undrained (signed : request.withToken userAgent token = .ok message)
    (rejected : IsRejected request response) (undrained : response.body.drain = .error error) :
    Protocol userAgent request
      [.token (.ok token), .send message ⟨.ok response, pulled⟩] ⟨.error error, pulled⟩ where
  asks_once := ⟨.ok token, rfl, rfl⟩
  sends_at_most_twice := Nat.le_succ 1
  first_send_iff :=
    iff_of_true (List.cons_ne_nil _ _) ⟨token, rfl, fieldValue?_of_signed signed⟩
  first_send := by
    rintro _ _ ⟨⟩
    exact ⟨token, rfl, isSigned_of_withToken signed⟩
  renewal_iff := by
    refine iff_of_false (fun renewed => renewed rfl) ?_
    rintro ⟨_, _, _, ⟨⟩, -, drained⟩
    exact nomatch drained.symm.trans undrained
  renewal := by rintro _ ⟨⟩
  second_send_iff := iff_of_false (by rintro ⟨⟩) (by rintro ⟨_, _, _, _, _, -, -, -, -, -, ⟨⟩, -⟩)
  second_send := by rintro _ _ _ _ ⟨⟩
  token_error := by rintro _ ⟨⟩
  unsendable_token := by
    rintro _ ⟨⟩ invalid
    exact absurd invalid (fieldValue?_of_signed signed).1
  unsendable_agent := by
    rintro _ ⟨⟩ - invalid
    exact absurd invalid (fieldValue?_of_signed signed).2
  transport_error := by rintro _ _ _ ⟨⟩
  final_answer := by
    rintro _ _ _ ⟨⟩ final
    exact absurd rejected final
  drain_error := by
    rintro _ _ _ _ ⟨⟩ - failed
    cases undrained.symm.trans failed
    exact ⟨rfl, rfl, rfl⟩
  renewal_error := by rintro _ _ ⟨⟩
  unsendable_renewal := by rintro _ _ ⟨⟩
  second_answer := by rintro _ _ _ _ ⟨⟩

private theorem protocol_of_notRenewed (signed : request.withToken userAgent token = .ok message)
    (rejected : IsRejected request response) (drained : response.body.drain = .ok ()) :
    Protocol userAgent request
      [.token (.ok token), .send message ⟨.ok response, pulled⟩, .renewal token (.error error)]
      ⟨.error error, pulled⟩ where
  asks_once := ⟨.ok token, rfl, rfl⟩
  sends_at_most_twice := Nat.le_succ 1
  first_send_iff :=
    iff_of_true (List.cons_ne_nil _ _) ⟨token, rfl, fieldValue?_of_signed signed⟩
  first_send := by
    rintro _ _ ⟨⟩
    exact ⟨token, rfl, isSigned_of_withToken signed⟩
  renewal_iff := iff_of_true (List.cons_ne_nil _ _) ⟨_, _, _, rfl, rejected, drained⟩
  renewal := by
    intro renewed member
    cases List.mem_singleton.mp member
    exact ⟨rfl, rfl⟩
  second_send_iff := iff_of_false (by rintro ⟨⟩) (by rintro ⟨_, _, _, _, _, -, -, -, -, -, ⟨⟩, -⟩)
  second_send := by rintro _ _ _ _ ⟨⟩
  token_error := by rintro _ ⟨⟩
  unsendable_token := by
    rintro _ ⟨⟩ invalid
    exact absurd invalid (fieldValue?_of_signed signed).1
  unsendable_agent := by
    rintro _ ⟨⟩ - invalid
    exact absurd invalid (fieldValue?_of_signed signed).2
  transport_error := by rintro _ _ _ ⟨⟩
  final_answer := by
    rintro _ _ _ ⟨⟩ final
    exact absurd rejected final
  drain_error := by
    rintro _ _ _ _ ⟨⟩ - undrained
    exact nomatch drained.symm.trans undrained
  renewal_error := by
    rintro _ _ ⟨⟩
    exact ⟨rfl, rfl⟩
  unsendable_renewal := by rintro _ _ ⟨⟩
  second_answer := by rintro _ _ _ _ ⟨⟩

/-- The agent was written before, so that it is the fresh token that cannot be. -/
private theorem fieldValue?_of_unsignedAgain
    (signed : request.withToken userAgent token = .ok message)
    (unsigned : request.withToken userAgent fresh = .error error) :
    Http.fieldValue? fresh = none ∧ error = .auth .unsendableToken := by
  rcases fieldValue?_of_unsigned unsigned with invalid | ⟨-, agent, -⟩
  · exact invalid
  · exact absurd agent (fieldValue?_of_signed signed).2

private theorem protocol_of_unsignedAgain
    (signed : request.withToken userAgent token = .ok message)
    (rejected : IsRejected request response) (drained : response.body.drain = .ok ())
    (unsigned : request.withToken userAgent fresh = .error error) :
    Protocol userAgent request
      [.token (.ok token), .send message ⟨.ok response, pulled⟩, .renewal token (.ok fresh)]
      ⟨.error error, 0⟩ where
  asks_once := ⟨.ok token, rfl, rfl⟩
  sends_at_most_twice := Nat.le_succ 1
  first_send_iff :=
    iff_of_true (List.cons_ne_nil _ _) ⟨token, rfl, fieldValue?_of_signed signed⟩
  first_send := by
    rintro _ _ ⟨⟩
    exact ⟨token, rfl, isSigned_of_withToken signed⟩
  renewal_iff := iff_of_true (List.cons_ne_nil _ _) ⟨_, _, _, rfl, rejected, drained⟩
  renewal := by
    intro renewed member
    cases List.mem_singleton.mp member
    exact ⟨rfl, rfl⟩
  second_send_iff := by
    refine iff_of_false (by rintro ⟨⟩) ?_
    rintro ⟨_, _, _, _, _, -, -, -, -, -, ⟨⟩, valid⟩
    exact valid (fieldValue?_of_unsignedAgain signed unsigned).1
  second_send := by rintro _ _ _ _ ⟨⟩
  token_error := by rintro _ ⟨⟩
  unsendable_token := by
    rintro _ ⟨⟩ invalid
    exact absurd invalid (fieldValue?_of_signed signed).1
  unsendable_agent := by
    rintro _ ⟨⟩ - invalid
    exact absurd invalid (fieldValue?_of_signed signed).2
  transport_error := by rintro _ _ _ ⟨⟩
  final_answer := by
    rintro _ _ _ ⟨⟩ final
    exact absurd rejected final
  drain_error := by
    rintro _ _ _ _ ⟨⟩ - undrained
    exact nomatch drained.symm.trans undrained
  renewal_error := by rintro _ _ ⟨⟩
  unsendable_renewal := by
    rintro _ _ ⟨⟩ -
    obtain ⟨-, rfl⟩ := fieldValue?_of_unsignedAgain signed unsigned
    exact ⟨rfl, rfl⟩
  second_answer := by rintro _ _ _ _ ⟨⟩

private theorem protocol_of_sentAgain (signed : request.withToken userAgent token = .ok message)
    (rejected : IsRejected request response) (drained : response.body.drain = .ok ())
    (signedAgain : request.withToken userAgent fresh = .ok replay) :
    Protocol userAgent request
      [.token (.ok token), .send message ⟨.ok response, pulled⟩, .renewal token (.ok fresh),
        .send replay exchange] exchange where
  asks_once := ⟨.ok token, rfl, rfl⟩
  sends_at_most_twice := Nat.le_refl 2
  first_send_iff :=
    iff_of_true (List.cons_ne_nil _ _) ⟨token, rfl, fieldValue?_of_signed signed⟩
  first_send := by
    rintro _ _ ⟨⟩
    exact ⟨token, rfl, isSigned_of_withToken signed⟩
  renewal_iff := iff_of_true (List.cons_ne_nil _ _) ⟨_, _, _, rfl, rejected, drained⟩
  renewal := by
    intro renewed member
    cases List.mem_singleton.mp member
    exact ⟨rfl, rfl⟩
  second_send_iff := iff_of_true rfl ⟨token, fresh, _, _, _, rfl, rfl, rejected.1, rejected.2,
    drained, rfl, (fieldValue?_of_signed signedAgain).1⟩
  second_send := by
    rintro _ _ _ _ ⟨⟩
    exact ⟨token, fresh, isReplay_of_withToken signed signedAgain, rfl⟩
  token_error := by rintro _ ⟨⟩
  unsendable_token := by
    rintro _ ⟨⟩ invalid
    exact absurd invalid (fieldValue?_of_signed signed).1
  unsendable_agent := by
    rintro _ ⟨⟩ - invalid
    exact absurd invalid (fieldValue?_of_signed signed).2
  transport_error := by rintro _ _ _ ⟨⟩
  final_answer := by
    rintro _ _ _ ⟨⟩ final
    exact absurd rejected final
  drain_error := by
    rintro _ _ _ _ ⟨⟩ - undrained
    exact nomatch drained.symm.trans undrained
  renewal_error := by rintro _ _ ⟨⟩
  unsendable_renewal := by
    rintro _ _ ⟨⟩ unsendable
    exact absurd unsendable (fieldValue?_of_signed signedAgain).1
  second_answer := by
    rintro _ _ _ _ ⟨⟩
    rfl

end

theorem protocol_of_conversation {userAgent : String} {request : Http.Request}
    {events : List Observation} {exchange : Exchange}
    (conversation : Conversation userAgent request events exchange) :
    Protocol userAgent request events exchange := by
  cases conversation with
  | noToken error => exact protocol_of_noToken error
  | unsendable unsigned => exact protocol_of_unsigned unsigned
  | failed signed => exact protocol_of_failed signed
  | answered signed final => exact protocol_of_answered signed final
  | undrained signed rejected undrained => exact protocol_of_undrained signed rejected undrained
  | notRenewed signed rejected drained => exact protocol_of_notRenewed signed rejected drained
  | unsendableAgain signed rejected drained unsigned =>
      exact protocol_of_unsignedAgain signed rejected drained unsigned
  | sentAgain signed rejected drained signedAgain =>
      exact protocol_of_sentAgain signed rejected drained signedAgain

/--
Whatever the transport and the authenticator do, one request through a transport with tokens keeps
to the protocol; what it asks of them is told by the same run with both observed.
-/
theorem token_protocol {σ : Type} (transport : Transport σ) (authenticator : Authenticator σ)
    (userAgent : String) (request : Http.Request) (state : σ) :
    ∃ events exchange last,
      (transport.authorized authenticator userAgent).send request state = (exchange, last) ∧
      (transport.observed.authorized authenticator.observed userAgent).send request ([], state) =
        (exchange, (events, last)) ∧
      Protocol userAgent request events exchange := by
  obtain ⟨events, exchange, last, run, observed, h⟩ :=
    exists_conversation transport authenticator userAgent request state
  exact ⟨events, exchange, last, run, observed, protocol_of_conversation h⟩

end ObjectStorage
