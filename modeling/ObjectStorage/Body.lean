import ObjectStorage.Error.Basic

/-!
# Bodies of requests and answers

A body is absent, held in memory, or a stream that is read once.  A stream is what reading it
gives: its chunks, up to the end or up to a failure.
-/

namespace ObjectStorage

/-- What reading a stream gives next. -/
inductive Stream.Item where
  | chunk (content : Bytes)
  | failure (message : String)
  deriving DecidableEq

structure Stream where
  chunks : List Bytes
  /-- What reading fails with after the chunks; none if the stream ends there. -/
  failure : Option String
  deriving DecidableEq, Repr

namespace Stream

/-- What reading the stream gives, one after the other. -/
def items (stream : Stream) : List Item :=
  stream.chunks.map .chunk ++ (stream.failure.map .failure).toList

/-- Puts the items behind what was read before them. -/
def collect (before : Bytes) : List Item → Except Error Bytes
  | [] => .ok before
  | .chunk content :: rest => collect (before ++ content) rest
  | .failure message :: _ => .error (.io (.stated message))

/-- Goes through the items without keeping any. -/
def discard : List Item → Except Error Unit
  | [] => .ok ()
  | .chunk _ :: rest => discard rest
  | .failure message :: _ => .error (.io (.stated message))

theorem collect_chunks (before : Bytes) (chunks : List Bytes) (rest : List Item) :
    collect before (chunks.map .chunk ++ rest) = collect (before ++ chunks.flatten) rest := by
  induction chunks generalizing before with
  | nil => simp
  | cons content chunks ih =>
      rw [List.map_cons, List.cons_append, collect, ih, List.flatten_cons, List.append_assoc]

theorem discard_chunks (chunks : List Bytes) (rest : List Item) :
    discard (chunks.map .chunk ++ rest) = discard rest := by
  induction chunks with
  | nil => rfl
  | cons content chunks ih => rw [List.map_cons, List.cons_append, discard, ih]

end Stream

inductive Body where
  | empty
  | bytes (content : Bytes)
  | stream (source : Stream)
  deriving DecidableEq, Repr

namespace Body

/-- The content that is at hand without reading. -/
def content? : Body → Option Bytes
  | .empty => some []
  | .bytes content => some content
  | .stream _ => none

/-- A second body with the same content, which streams do not give. -/
def copy? : Body → Option Body
  | .empty => some .empty
  | .bytes content => some (.bytes content)
  | .stream _ => none

def toStream : Body → Stream
  | .empty => ⟨[], none⟩
  | .bytes content => ⟨[content], none⟩
  | .stream source => source

def read : Body → Except Error Bytes
  | .empty => .ok []
  | .bytes content => .ok content
  | .stream source => Stream.collect [] source.items

def drain : Body → Except Error Unit
  | .stream source => Stream.discard source.items
  | _ => .ok ()

def description : Body → String
  | .empty => "Body::Empty"
  | .bytes content => "Body::Bytes(" ++ Integer.writeNat content.length ++ " bytes)"
  | .stream _ => "Body::Stream"

/-! ## Bodies that end and bodies that break off -/

variable {body : Body} {message : String}

theorem read_of_ended (ended : body.toStream.failure = none) :
    body.read = .ok body.toStream.chunks.flatten := by
  match body, ended with
  | .empty, _ => rfl
  | .bytes content, _ => simp [read, toStream]
  | .stream ⟨chunks, none⟩, _ =>
      rw [read, Stream.items, Stream.collect_chunks]
      rfl

theorem read_of_broken (broken : body.toStream.failure = some message) :
    body.read = .error (.io (.stated message)) := by
  match body, broken with
  | .stream ⟨chunks, some _⟩, rfl =>
      rw [read, Stream.items, Stream.collect_chunks]
      rfl

theorem drain_of_ended (ended : body.toStream.failure = none) : body.drain = .ok () := by
  match body, ended with
  | .empty, _ => rfl
  | .bytes content, _ => rfl
  | .stream ⟨chunks, none⟩, _ =>
      rw [drain, Stream.items, Stream.discard_chunks]
      rfl

theorem drain_of_broken (broken : body.toStream.failure = some message) :
    body.drain = .error (.io (.stated message)) := by
  match body, broken with
  | .stream ⟨chunks, some _⟩, rfl =>
      rw [drain, Stream.items, Stream.discard_chunks]
      rfl

theorem read_cases (body : Body) :
    (∃ content, body.read = .ok content) ∨ ∃ fault, body.read = .error (.io fault) := by
  cases failure : body.toStream.failure with
  | none => exact .inl ⟨_, read_of_ended failure⟩
  | some message => exact .inr ⟨_, read_of_broken failure⟩

theorem drain_cases (body : Body) :
    body.drain = .ok () ∨ ∃ fault, body.drain = .error (.io fault) := by
  cases failure : body.toStream.failure with
  | none => exact .inl (drain_of_ended failure)
  | some message => exact .inr ⟨_, drain_of_broken failure⟩

end Body

end ObjectStorage
