import ObjectStorage.Auth.Authenticator

/-!
# Scripted servers

A server whose answers are fixed beforehand, and which keeps a record of what was asked of it.
-/

namespace ObjectStorage

namespace Script

/-- What of a request body was read: its chunks, and the failure that reading ended in. -/
structure Reading where
  chunks : List Bytes
  failure : Option String
  deriving DecidableEq, Repr

structure Answer where
  /-- After how many chunks of the request the server stops reading; none if it reads all. -/
  reads : Option Nat
  result : Except Error Http.Response

inductive Event where
  | request (request : Http.Request) (read : Reading)
  | token
  | reauthenticate (rejected : String)

/-- Reads a body up to its end or failure, or up to the given number of chunks. -/
def read (body : Body) (limit : Option Nat) : Reading :=
  let stream := body.toStream
  match limit with
  | none => ⟨stream.chunks, stream.failure⟩
  | some n =>
      if n ≤ stream.chunks.length then ⟨stream.chunks.take n, none⟩
      else ⟨stream.chunks, stream.failure⟩

end Script

structure Script where
  answers : List Script.Answer
  /-- What the authenticator gives, token after token. -/
  tokens : List (Except Error String)
  /-- What the authenticator gives for rejected tokens. -/
  renewals : List (Except Error String)
  /-- What happened, the latest last. -/
  events : Array Script.Event

namespace Script

def empty : Script := ⟨[], [], [], #[]⟩

def record (script : Script) (event : Event) : Script :=
  { script with events := script.events.push event }

/-- What comes of a request, given what was read of it. -/
def outcome (read : Reading) (answer : Option Answer) : Except Error Http.Response :=
  match read.failure, answer with
  | some message, _ => .error (.io (.stated message))
  | none, none => .error (.transport (.stated "no scripted response"))
  | none, some answer => answer.result

/-- Every request takes an answer, read of the request whatever comes of it. -/
def transport : Transport Script where
  send request := fun script =>
    let answer := script.answers.head?
    let read := read request.body (answer.bind (·.reads))
    let script := { script with answers := script.answers.drop 1 }
    (⟨outcome read answer, read.chunks.length⟩, script.record (.request request read))

def nextToken : List (Except Error String) → Except Error String
  | [] => .error (.auth (.stated "no scripted token"))
  | token :: _ => token

def authenticator : Authenticator Script where
  token := fun script =>
    Remote.ofExcept (nextToken script.tokens)
      ({ script with tokens := script.tokens.drop 1 }.record .token)
  reauthenticate rejected := fun script =>
    Remote.ofExcept (nextToken script.renewals)
      ({ script with renewals := script.renewals.drop 1 }.record (.reauthenticate rejected))

end Script

end ObjectStorage
