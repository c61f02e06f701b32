import ObjectStorage.Writer.Upload

/-!
# Moves of the pipe

The ways in which a pipe can go on, and what the producer has been told of its writes by then.
-/

namespace ObjectStorage

structure Write where
  chunk : Bytes
  accepted : Bool
  deriving DecidableEq, Repr

namespace Write

/-- The chunks that were accepted; those without content are not passed on. -/
def chunks (writes : List Write) : List Bytes :=
  (writes.filter fun write => write.accepted && !write.chunk.isEmpty).map Write.chunk

variable {writes : List Write} {chunk : Bytes}

theorem chunks_append (writes others : List Write) :
    chunks (writes ++ others) = chunks writes ++ chunks others := by
  simp [chunks]

theorem chunks_skipped (empty : chunk.isEmpty = true) :
    chunks (writes ++ [⟨chunk, true⟩]) = chunks writes := by
  simp [chunks, empty]

theorem chunks_refused : chunks (writes ++ [⟨chunk, false⟩]) = chunks writes := by
  simp [chunks]

theorem chunks_accepted (content : chunk.isEmpty = false) :
    chunks (writes ++ [⟨chunk, true⟩]) = chunks writes ++ [chunk] := by
  simp [chunks, content]

end Write

namespace Producer

/-- The producer makes the writes, with these answers, and then goes on as the other one. -/
inductive Wrote (producer : Producer) : List Write → Producer → Prop
  | start : Wrote producer [] producer
  | write {writes : List Write} {chunk : Bytes} {next : Bool → Producer}
      (wrote : Wrote producer writes (.write chunk next)) (accepted : Bool) :
      Wrote producer (writes ++ [⟨chunk, accepted⟩]) (next accepted)

variable {producer rest : Producer} {writes : List Write}

private theorem items_stream_write (chunk : Bytes) (next : Bool → Producer) :
    (Producer.write chunk next).stream.items =
      (Write.chunks [⟨chunk, true⟩]).map .chunk ++ (next true).stream.items := by
  cases empty : chunk.isEmpty <;> simp [stream, Stream.items, Write.chunks, empty]

/-- While no write is refused, the stream is what was accepted and then what is still to come. -/
theorem Wrote.stream_items_eq (wrote : producer.Wrote writes rest)
    (accepted : ∀ write ∈ writes, write.accepted = true) :
    producer.stream.items = (Write.chunks writes).map .chunk ++ rest.stream.items := by
  induction wrote with
  | start => simp [Write.chunks]
  | @write writes chunk next wrote answer ih =>
      have before := ih fun write hwrite => accepted write (List.mem_append_left _ hwrite)
      obtain rfl : answer = true := accepted ⟨chunk, answer⟩ (by simp)
      rw [before, items_stream_write, Write.chunks_append, List.map_append, List.append_assoc]

end Producer

namespace Pipe

def Stage.rest : Stage → Producer
  | .writing producer => producer
  | .failing error => .finish (.error error)
  | .finished result => .finish result

def Stage.failures : Stage → List Stream.Item
  | .finished (.error error) => [.failure error.message]
  | _ => []

/-- How a pipe goes on by one move, and what the producer is told of its write by that. -/
inductive Moved (pipe : Pipe) : List Write → Pipe → Prop
  | finished (stage : pipe.stage = .writing (.finish (.ok ()))) :
      Moved pipe [] { pipe with stage := .finished (.ok ()) }
  | failed {error : Error} (stage : pipe.stage = .writing (.finish (.error error))) :
      Moved pipe [] { pipe with stage := .failing error }
  | skipped {chunk : Bytes} {next : Bool → Producer}
      (stage : pipe.stage = .writing (.write chunk next)) (empty : chunk.isEmpty = true) :
      Moved pipe [⟨chunk, true⟩] { pipe with stage := .writing (next true) }
  | refused {chunk : Bytes} {next : Bool → Producer}
      (stage : pipe.stage = .writing (.write chunk next)) (content : chunk.isEmpty = false)
      (dropped : pipe.isOpen = false) :
      Moved pipe [⟨chunk, false⟩] { pipe with stage := .writing (next false), refused := true }
  | accepted {chunk : Bytes} {next : Bool → Producer}
      (stage : pipe.stage = .writing (.write chunk next)) (content : chunk.isEmpty = false)
      (opened : pipe.isOpen = true) (room : pipe.channel.length < pipe.capacity) :
      Moved pipe [⟨chunk, true⟩] { pipe with
        stage := .writing (next true)
        accepted := chunk :: pipe.accepted
        channel := pipe.channel ++ [.chunk chunk] }
  | unreported {error : Error} (stage : pipe.stage = .failing error)
      (dropped : pipe.isOpen = false) :
      Moved pipe [] { pipe with stage := .finished (.error error) }
  | reported {error : Error} (stage : pipe.stage = .failing error)
      (opened : pipe.isOpen = true) (room : pipe.channel.length < pipe.capacity) :
      Moved pipe [] { pipe with
        stage := .finished (.error error)
        channel := pipe.channel ++ [.failure error.message] }
  | pulled {item : Stream.Item} {rest : List Stream.Item} (opened : pipe.isOpen = true)
      (goesOn : pipe.ended = false) (next : pipe.channel = item :: rest) :
      Moved pipe [] { pipe with channel := rest, pulled := item :: pipe.pulled }
  | ended {result : Except Error Unit} (stage : pipe.stage = .finished result)
      (opened : pipe.isOpen = true) (empty : pipe.channel = []) :
      Moved pipe [] { pipe with ended := true }
  | closed (opened : pipe.isOpen = true) :
      Moved pipe [] { pipe with isOpen := false, channel := [] }

def told (pipe : Pipe) : Move → List Write
  | .produce =>
      match pipe.stage with
      | .writing (.write chunk _) => [⟨chunk, chunk.isEmpty || pipe.isOpen⟩]
      | _ => []
  | _ => []

def answers (pipe : Pipe) : List Move → List Write
  | [] => []
  | move :: rest => pipe.told move ++ (pipe.move move).elim [] fun next => next.answers rest

variable {pipe next : Pipe}

theorem isFinished_iff : pipe.isFinished = true ↔ ∃ result, pipe.stage = .finished result := by
  unfold isFinished
  split
  · next result stage => simp [stage]
  · next other =>
    refine ⟨nofun, ?_⟩
    rintro ⟨result, stage⟩
    exact absurd stage (other result)

theorem moved_of_produce (h : pipe.produce = some next) :
    Moved pipe (pipe.told .produce) next := by
  unfold produce at h
  split at h
  · next stage =>
    cases h
    simpa only [told, stage] using Moved.finished stage
  · next error stage =>
    cases h
    simpa only [told, stage] using Moved.failed stage
  · next chunk rest stage =>
    simp only [told, stage]
    split at h
    · next empty =>
      cases h
      simpa only [empty, Bool.true_or] using Moved.skipped stage empty
    next content =>
    rw [Bool.not_eq_true] at content
    rw [content, Bool.false_or]
    split at h
    · next dropped =>
      cases h
      rw [Bool.not_eq_true'] at dropped
      simpa only [dropped] using Moved.refused stage content dropped
    next opened =>
    rw [Bool.not_eq_true', Bool.not_eq_false] at opened
    split at h
    · next room =>
      cases h
      simpa only [opened] using Moved.accepted stage content opened (by simpa [hasRoom] using room)
    · cases h
  · next error stage =>
    simp only [told, stage]
    split at h
    · next dropped =>
      cases h
      exact .unreported stage (by simpa using dropped)
    next opened =>
    split at h
    · next room =>
      cases h
      exact .reported stage (by simpa using opened) (by simpa [hasRoom] using room)
    · cases h
  · cases h

theorem moved_of_pull (h : pipe.pull = some next) : Moved pipe [] next := by
  unfold pull at h
  split at h
  · cases h
  next reads =>
  obtain ⟨opened, goesOn⟩ : pipe.isOpen = true ∧ pipe.ended = false := by simpa using reads
  split at h
  · next item rest channel =>
    cases h
    exact .pulled opened goesOn channel
  · next channel =>
    split at h
    · next finished =>
      cases h
      obtain ⟨result, stage⟩ := isFinished_iff.mp finished
      exact .ended stage opened channel
    · cases h

theorem moved_of_close (h : pipe.close = some next) : Moved pipe [] next := by
  unfold close at h
  split at h
  · next opened =>
    cases h
    exact .closed opened
  · cases h

theorem moved_of_move {move : Move} (h : pipe.move move = some next) :
    Moved pipe (pipe.told move) next := by
  cases move with
  | produce => exact moved_of_produce h
  | pull => exact moved_of_pull h
  | close => exact moved_of_close h

/-! ## Waiting -/

def ProducerWaits (pipe : Pipe) : Prop := pipe.isFinished = false ∧ pipe.produce = none

def UploadWaits (pipe : Pipe) : Prop :=
  pipe.isOpen = true ∧ pipe.ended = false ∧ pipe.pull = none

theorem ProducerWaits.capacity_le_length (waits : pipe.ProducerWaits) :
    pipe.isOpen = true ∧ pipe.capacity ≤ pipe.channel.length := by
  obtain ⟨unfinished, stuck⟩ := waits
  unfold produce at stuck
  split at stuck
  · cases stuck
  · cases stuck
  · split at stuck
    · cases stuck
    split at stuck
    · cases stuck
    next opened =>
    split at stuck
    · cases stuck
    · next noRoom => exact ⟨by simpa using opened, by simpa [hasRoom] using noRoom⟩
  · split at stuck
    · cases stuck
    next opened =>
    split at stuck
    · cases stuck
    · next noRoom => exact ⟨by simpa using opened, by simpa [hasRoom] using noRoom⟩
  · next result stage => simp [isFinished, stage] at unfinished

theorem UploadWaits.channel_eq_nil (waits : pipe.UploadWaits) : pipe.channel = [] := by
  obtain ⟨opened, goesOn, stuck⟩ := waits
  cases channel : pipe.channel with
  | nil => rfl
  | cons item rest => simp [pull, opened, goesOn, channel] at stuck

end Pipe

end ObjectStorage
