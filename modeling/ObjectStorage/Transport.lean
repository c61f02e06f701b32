import ObjectStorage.Http.Message

/-!
# Transports

A transport sends one request and brings back what came of it.  Its state is a parameter, so that
everything above it is stated for any server and any network.
-/

namespace ObjectStorage

/-- What came of sending a request. -/
structure Exchange where
  result : Except Error Http.Response
  /-- How many chunks of a streamed request body were read. -/
  pulled : Nat

structure Transport (σ : Type) where
  send : Http.Request → StateM σ Exchange

/-- Operations on a state that may fail; what they did before stays done. -/
abbrev Remote (σ : Type) := EStateM Error σ

namespace Remote

variable {σ τ α : Type}

def ofExcept (result : Except Error α) : Remote σ α :=
  match result with
  | .ok value => pure value
  | .error error => throw error

def attempt (operation : Remote σ α) : StateM σ (Except Error α) := fun state =>
  match operation state with
  | .ok value state => (.ok value, state)
  | .error error state => (.error error, state)

def onSecond (operation : Remote σ α) : Remote (τ × σ) α := fun (first, state) =>
  match operation state with
  | .ok value state => .ok value (first, state)
  | .error error state => .error error (first, state)

/-- An operation with a first part of the state of its own, which is dropped afterwards. -/
def within (first : τ) (operation : Remote (τ × σ) α) : Remote σ α := fun state =>
  match operation (first, state) with
  | .ok value (_, state) => .ok value state
  | .error error (_, state) => .error error state

def ofState (operation : StateM σ α) : Remote σ α := fun state =>
  let (value, state) := operation state
  .ok value state

end Remote

namespace Transport

variable {σ τ : Type}

def onSecond (transport : Transport σ) : Transport (τ × σ) where
  send request := fun (first, state) =>
    let (exchange, state) := transport.send request state
    (exchange, (first, state))

def request (transport : Transport σ) (request : Http.Request) : Remote σ Http.Response := do
  let exchange ← Remote.ofState (transport.send request)
  Remote.ofExcept exchange.result

end Transport

end ObjectStorage
