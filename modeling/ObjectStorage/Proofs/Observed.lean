import ObjectStorage.Auth.Authenticator
import ObjectStorage.Proofs.Outcome

/-!
# Observed runs

A transport and an authenticator that keep a record of what they were asked and of what they
answered, and otherwise are what they were.
-/

namespace ObjectStorage

inductive Observation where
  | token (answer : Except Error String)
  | renewal (rejected : String) (answer : Except Error String)
  | send (request : Http.Request) (exchange : Exchange)

namespace Observation

def tokens (events : List Observation) : List (Except Error String) :=
  events.filterMap fun
    | .token answer => some answer
    | _ => none

def renewals (events : List Observation) : List (String × Except Error String) :=
  events.filterMap fun
    | .renewal rejected answer => some (rejected, answer)
    | _ => none

def sends (events : List Observation) : List (Http.Request × Exchange) :=
  events.filterMap fun
    | .send request exchange => some (request, exchange)
    | _ => none

@[simp] theorem sends_append (first second : List Observation) :
    sends (first ++ second) = sends first ++ sends second :=
  List.filterMap_append

end Observation

variable {σ : Type}

def Transport.observed (transport : Transport σ) : Transport (List Observation × σ) where
  send request := fun (events, state) =>
    let (exchange, state) := transport.send request state
    (exchange, (events ++ [.send request exchange], state))

theorem observed_send {transport : Transport σ} {request : Http.Request} {exchange : Exchange}
    {state next : σ} (events : List Observation)
    (h : transport.send request state = (exchange, next)) :
    transport.observed.send request (events, state) =
      (exchange, (events ++ [.send request exchange], next)) := by
  simp [Transport.observed, h]

theorem Transport.of_observed {transport : Transport σ} {request : Http.Request}
    {exchange : Exchange} {events : List Observation} {state : σ} {next : List Observation × σ}
    (h : transport.observed.send request (events, state) = (exchange, next)) :
    ∃ last, transport.send request state = (exchange, last) ∧
      next = (events ++ [.send request exchange], last) := by
  cases h
  exact ⟨(transport.send request state).2, rfl, rfl⟩

/-- Whether the transport answers the requests like this, one after the other. -/
def Transport.Answers (transport : Transport σ) :
    List (Http.Request × Exchange) → σ → σ → Prop
  | [], state, last => last = state
  | (request, exchange) :: rest, state, last =>
      ∃ next, transport.send request state = (exchange, next) ∧ transport.Answers rest next last

theorem Transport.Answers.append {transport : Transport σ}
    {first second : List (Http.Request × Exchange)} {state next last : σ}
    (h : transport.Answers first state next) (others : transport.Answers second next last) :
    transport.Answers (first ++ second) state last := by
  induction first generalizing state with
  | nil =>
      obtain rfl : next = state := h
      exact others
  | cons send rest ih =>
      obtain ⟨between, sent, answers⟩ := h
      exact ⟨between, sent, ih answers⟩

def Remote.noting {α : Type} (note : Except Error α → Observation) (operation : Remote σ α) :
    Remote (List Observation × σ) α := fun (events, state) =>
  match operation state with
  | .ok value state => .ok value (events ++ [note (.ok value)], state)
  | .error error state => .error error (events ++ [note (.error error)], state)

def Authenticator.observed (authenticator : Authenticator σ) :
    Authenticator (List Observation × σ) where
  token := authenticator.token.noting .token
  reauthenticate rejected := (authenticator.reauthenticate rejected).noting (.renewal rejected)

namespace Remote

variable {α : Type}

theorem attempt_of_ok {operation : Remote σ α} {state next : σ} {value : α}
    (h : operation state = .ok value next) : operation.attempt state = (.ok value, next) := by
  simp [attempt, h]

theorem attempt_of_error {operation : Remote σ α} {state next : σ} {error : Error}
    (h : operation state = .error error next) :
    operation.attempt state = (.error error, next) := by
  simp [attempt, h]

theorem attempt_noting (note : Except Error α → Observation) (operation : Remote σ α)
    (events : List Observation) (state : σ) :
    (operation.noting note).attempt (events, state) =
      ((operation.attempt state).1,
        (events ++ [note (operation.attempt state).1], (operation.attempt state).2)) := by
  cases h : operation state <;> simp [noting, attempt, h]

end Remote

end ObjectStorage
