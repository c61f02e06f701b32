import ObjectStorage.Body

/-!
# The pipe between a writer and an upload

A producer writes chunks into a channel that holds a bounded number of them, and an upload pulls
them out as the body of its request.  A producer that fails puts its failure into the channel, and
an upload that stops reading closes it, so that the next write is refused.
-/

namespace ObjectStorage

/-- A program that writes chunks; it is told of each write whether the chunk was accepted. -/
inductive Producer where
  | finish (result : Except Error Unit)
  | write (chunk : Bytes) (next : Bool → Producer)

namespace Producer

/-- Writes the chunks and ends with the result; the first write that is refused ends it too. -/
def ofChunks (result : Except Error Unit) : List Bytes → Producer
  | [] => .finish result
  | chunk :: rest =>
      .write chunk fun accepted =>
        if accepted then ofChunks result rest else .finish (.error (.transport .uploadStopped))

/-- What an upload reads that never stops reading; empty chunks are not passed on. -/
def stream : Producer → Stream
  | .finish (.ok ()) => ⟨[], none⟩
  | .finish (.error error) => ⟨[], some error.message⟩
  | .write chunk next =>
      let rest := (next true).stream
      if chunk.isEmpty then rest else { rest with chunks := chunk :: rest.chunks }

end Producer

inductive Pipe.Stage where
  | writing (producer : Producer)
  /-- The producer has failed, and its failure has still to be put into the channel. -/
  | failing (error : Error)
  | finished (result : Except Error Unit)

structure Pipe where
  capacity : Nat
  stage : Pipe.Stage
  /-- Whether a write was refused. -/
  refused : Bool
  /-- The chunks that were accepted, the latest first. -/
  accepted : List Bytes
  channel : List Stream.Item
  /-- Whether the upload still holds its end. -/
  isOpen : Bool
  /-- What the upload pulled, the latest first. -/
  pulled : List Stream.Item
  /-- Whether the upload has seen the end of the body. -/
  ended : Bool

namespace Pipe

def start (capacity : Nat) (producer : Producer) : Pipe :=
  ⟨capacity, .writing producer, false, [], [], true, [], false⟩

def hasRoom (pipe : Pipe) : Bool := pipe.channel.length < pipe.capacity

/-! ## Moves -/

/-- A move of the producer; none while it waits for room. -/
def produce (pipe : Pipe) : Option Pipe :=
  match pipe.stage with
  | .writing (.finish (.ok ())) => some { pipe with stage := .finished (.ok ()) }
  | .writing (.finish (.error error)) => some { pipe with stage := .failing error }
  | .writing (.write chunk next) =>
      if chunk.isEmpty then some { pipe with stage := .writing (next true) }
      else if !pipe.isOpen then
        some { pipe with stage := .writing (next false), refused := true }
      else if pipe.hasRoom then
        some { pipe with
          stage := .writing (next true)
          accepted := chunk :: pipe.accepted
          channel := pipe.channel ++ [.chunk chunk] }
      else none
  | .failing error =>
      if !pipe.isOpen then some { pipe with stage := .finished (.error error) }
      else if pipe.hasRoom then
        some { pipe with
          stage := .finished (.error error)
          channel := pipe.channel ++ [.failure error.message] }
      else none
  | .finished _ => none

def isFinished (pipe : Pipe) : Bool :=
  match pipe.stage with
  | .finished _ => true
  | _ => false

/-- The upload takes what is next; none while it waits for the producer, or after the end. -/
def pull (pipe : Pipe) : Option Pipe :=
  if !pipe.isOpen || pipe.ended then none
  else match pipe.channel with
    | item :: rest => some { pipe with channel := rest, pulled := item :: pipe.pulled }
    | [] => if pipe.isFinished then some { pipe with ended := true } else none

def close (pipe : Pipe) : Option Pipe :=
  if pipe.isOpen then some { pipe with isOpen := false, channel := [] } else none

inductive Move where
  | produce
  | pull
  | close
  deriving DecidableEq, Repr

def move (pipe : Pipe) : Move → Option Pipe
  | .produce => pipe.produce
  | .pull => pipe.pull
  | .close => pipe.close

def run (pipe : Pipe) : List Move → Option Pipe
  | [] => some pipe
  | next :: rest => (pipe.move next).bind fun pipe => pipe.run rest

/-- The result of the whole, given the upload's own; none while the producer has not finished. -/
def result? (pipe : Pipe) (uploaded : Except Error Unit) : Option (Except Error Unit) :=
  match pipe.stage with
  | .finished (.ok ()) => some uploaded
  | .finished (.error error) =>
      if pipe.refused then
        match uploaded with
        | .ok () => some (.error error)
        | .error first => some (.error first)
      else some (.error error)
  | _ => none

/-! ## The producer first -/

/--
The moves when the producer goes on as long as it can and the upload pulls only when the channel is
full, until it has pulled `wanted` times and closes.  `room` counts what the channel still takes.
-/
def schedule (room wanted : Nat) (isOpen : Bool) : Producer → List Move
  | .finish (.ok ()) => [.produce]
  | .finish (.error _) =>
      if !isOpen || 0 < room then [.produce, .produce]
      else if 0 < wanted then [.produce, .pull, .produce]
      else [.produce, .close, .produce]
  | .write chunk next =>
      if chunk.isEmpty then .produce :: schedule room wanted isOpen (next true)
      else if !isOpen then .produce :: schedule room wanted isOpen (next false)
      else if 0 < room then .produce :: schedule (room - 1) wanted isOpen (next true)
      else if 0 < wanted then
        .pull :: .produce :: schedule 0 (wanted - 1) isOpen (next true)
      else .close :: .produce :: schedule 0 0 false (next false)

theorem run_cons {pipe next : Pipe} {first : Move} {rest : List Move}
    (h : pipe.move first = some next) : pipe.run (first :: rest) = next.run rest := by
  simp [run, h]

section

variable {pipe : Pipe} {chunk : Bytes} {next : Bool → Producer}

private theorem move_produce_of_isEmpty (writes : pipe.stage = .writing (.write chunk next))
    (empty : chunk.isEmpty = true) :
    pipe.move .produce = some { pipe with stage := .writing (next true) } := by
  simp [move, produce, writes, empty]

private theorem move_produce_of_closed (writes : pipe.stage = .writing (.write chunk next))
    (content : ¬chunk.isEmpty = true) (closed : pipe.isOpen = false) :
    pipe.move .produce =
      some { pipe with stage := .writing (next false), refused := true } := by
  simp [move, produce, writes, content, closed]

private theorem move_produce_of_room (writes : pipe.stage = .writing (.write chunk next))
    (content : ¬chunk.isEmpty = true) (opened : pipe.isOpen = true)
    (room : pipe.channel.length < pipe.capacity) :
    pipe.move .produce = some { pipe with
      stage := .writing (next true)
      accepted := chunk :: pipe.accepted
      channel := pipe.channel ++ [.chunk chunk] } := by
  simp [move, produce, writes, content, opened, hasRoom, room]

private theorem move_pull_of_cons {item : Stream.Item} {items : List Stream.Item}
    (opened : pipe.isOpen = true) (goesOn : pipe.ended = false)
    (channel : pipe.channel = item :: items) :
    pipe.move .pull = some { pipe with channel := items, pulled := item :: pipe.pulled } := by
  simp [move, pull, opened, goesOn, channel]

private theorem exists_cons_of_full (holds : 0 < pipe.capacity)
    (full : pipe.channel.length = pipe.capacity) :
    ∃ item items, pipe.channel = item :: items ∧ items.length < pipe.capacity := by
  obtain ⟨item, items, channel⟩ := List.exists_cons_of_length_pos (full ▸ holds)
  refine ⟨item, items, channel, ?_⟩
  rw [channel, List.length_cons] at full
  omega

private theorem exists_run_schedule_finish (result : Except Error Unit) {room wanted : Nat}
    {isOpen : Bool} (writes : pipe.stage = .writing (.finish result)) (goesOn : pipe.ended = false)
    (holds : 0 < pipe.capacity) (hopen : pipe.isOpen = isOpen)
    (fits : isOpen = true → pipe.channel.length + room = pipe.capacity) :
    ∃ last, pipe.run (schedule room wanted isOpen (.finish result)) = some last ∧
      last.isFinished = true := by
  cases result with
  | ok value => simp [schedule, run, move, produce, writes, isFinished]
  | error error =>
      cases isOpen with
      | false => simp [schedule, run, move, produce, writes, hopen, isFinished]
      | true =>
          have total := fits rfl
          by_cases hroom : 0 < room
          · have : pipe.channel.length < pipe.capacity := by omega
            simp [schedule, run, move, produce, writes, hopen, hroom, hasRoom, this, isFinished]
          · obtain ⟨item, items, channel, fewer⟩ := exists_cons_of_full holds (by omega)
            by_cases hwanted : 0 < wanted
            · simp [schedule, run, move, produce, pull, writes, hopen, hroom, hasRoom, hwanted,
                channel, goesOn, fewer, isFinished]
            · simp [schedule, run, move, produce, close, writes, hopen, hroom, hwanted, isFinished]

end

theorem exists_run_schedule (producer : Producer) {pipe : Pipe} {room : Nat} {isOpen : Bool}
    (wanted : Nat) (writes : pipe.stage = .writing producer) (goesOn : pipe.ended = false)
    (holds : 0 < pipe.capacity) (hopen : pipe.isOpen = isOpen)
    (fits : isOpen = true → pipe.channel.length + room = pipe.capacity) :
    ∃ last, pipe.run (schedule room wanted isOpen producer) = some last ∧
      last.isFinished = true := by
  induction producer generalizing pipe room wanted isOpen with
  | finish result => exact exists_run_schedule_finish result writes goesOn holds hopen fits
  | write chunk next ih =>
      by_cases hempty : chunk.isEmpty
      · rw [schedule, if_pos hempty, run_cons (move_produce_of_isEmpty writes hempty)]
        exact ih true wanted rfl goesOn holds hopen fits
      cases isOpen with
      | false =>
          rw [schedule, if_neg hempty, if_pos (by rfl),
            run_cons (move_produce_of_closed writes hempty hopen)]
          exact ih false wanted rfl goesOn holds hopen fits
      | true =>
          have total := fits rfl
          rw [schedule, if_neg hempty, if_neg (by decide)]
          split
          · next hroom =>
            rw [run_cons (move_produce_of_room writes hempty hopen (by omega))]
            refine ih true wanted rfl goesOn holds hopen fun _ => ?_
            simp only [List.length_append, List.length_singleton]
            omega
          split
          · next hwanted =>
            -- The channel is full, so that the upload pulls before the chunk gets in.
            obtain ⟨item, items, channel, fewer⟩ := exists_cons_of_full holds (by omega)
            have made : ({ pipe with
                channel := items, pulled := item :: pipe.pulled } : Pipe).move .produce = _ :=
              move_produce_of_room writes hempty hopen fewer
            rw [run_cons (move_pull_of_cons hopen goesOn channel), run_cons made]
            refine ih true _ rfl goesOn holds hopen fun _ => ?_
            rw [channel, List.length_cons] at total
            simp only [List.length_append, List.length_singleton]
            omega
          · have closes : pipe.move .close = some { pipe with isOpen := false, channel := [] } := by
              simp [move, close, hopen]
            have made : ({ pipe with isOpen := false, channel := [] } : Pipe).move .produce = _ :=
              move_produce_of_closed writes hempty rfl
            rw [run_cons closes, run_cons made]
            exact ih false 0 rfl goesOn holds rfl nofun

end Pipe

end ObjectStorage
