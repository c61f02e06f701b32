import ObjectStorage.Proofs.Execution
import ObjectStorage.Proofs.Writer.Moves

/-!
# The protocol between writer and upload

What holds of a pipe however the moves of the producer and of the upload follow on each other: the
upload reads what was written, in order, and learns how the producer ended; the two never wait for
each other; and the whole is an error unless both succeeded.
-/

namespace ObjectStorage

def Stream.Item.content? : Stream.Item → Option Bytes
  | .chunk content => some content
  | .failure _ => none

namespace Pipe

def pulledChunks (pipe : Pipe) : List Bytes := pipe.pulled.reverse.filterMap Stream.Item.content?

/-- What the producer has passed on: the accepted chunks, and its failure once it is done. -/
def sent (pipe : Pipe) : List Stream.Item := pipe.accepted.reverse.map .chunk ++ pipe.stage.failures

/-- What every move keeps, given the answers to the writes so far. -/
structure Sound (capacity : Nat) (producer : Producer) (writes : List Write) (pipe : Pipe) :
    Prop where
  wrote : producer.Wrote writes pipe.stage.rest
  holds : pipe.capacity = capacity
  bounded : pipe.channel.length ≤ capacity
  accepted : pipe.accepted.reverse = Write.chunks writes
  refused : pipe.refused = true ↔ ∃ write ∈ writes, write.accepted = false
  dropped : pipe.refused = true → pipe.isOpen = false
  discarded : pipe.isOpen = false → pipe.channel = []
  flow : pipe.isOpen = true → pipe.pulled.reverse ++ pipe.channel = pipe.sent
  beginning : pipe.pulled.reverse <+: pipe.sent
  read : pipe.pulled.reverse <+: producer.stream.items
  ended : pipe.ended = true → pipe.isFinished = true ∧ pipe.pulled.reverse = pipe.sent

variable {capacity : Nat} {producer : Producer} {writes : List Write} {pipe next : Pipe}

theorem sound_start (capacity : Nat) (producer : Producer) :
    Sound capacity producer [] (start capacity producer) where
  wrote := .start
  holds := rfl
  bounded := Nat.zero_le capacity
  accepted := rfl
  refused := by simp [start]
  dropped := nofun
  discarded := nofun
  flow _ := rfl
  beginning := List.nil_prefix
  read := List.nil_prefix
  ended := nofun

theorem isFinished_of_writing {rest : Producer} (stage : pipe.stage = .writing rest) :
    pipe.isFinished = false := by
  simp [isFinished, stage]

theorem isFinished_of_failing {error : Error} (stage : pipe.stage = .failing error) :
    pipe.isFinished = false := by
  simp [isFinished, stage]

private theorem Stage.failures_prefix (stage : Stage) :
    stage.failures <+: stage.rest.stream.items := by
  cases stage with
  | writing producer => exact List.nil_prefix
  | failing error => exact List.nil_prefix
  | finished result =>
      cases result with
      | ok => exact List.nil_prefix
      | error error => exact List.prefix_refl _

namespace Sound

theorem not_ended (sound : Sound capacity producer writes pipe) (goesOn : pipe.isFinished = false) :
    pipe.ended = false := by
  cases ended : pipe.ended with
  | false => rfl
  | true => exact nomatch goesOn.symm.trans (sound.ended ended).1

theorem wrote_of_writing (sound : Sound capacity producer writes pipe) {rest : Producer}
    (stage : pipe.stage = .writing rest) : producer.Wrote writes rest := by
  simpa only [stage, Stage.rest] using sound.wrote

theorem wrote_of_failing (sound : Sound capacity producer writes pipe) {error : Error}
    (stage : pipe.stage = .failing error) : producer.Wrote writes (.finish (.error error)) := by
  simpa only [stage, Stage.rest] using sound.wrote

theorem bounded_append (sound : Sound capacity producer writes pipe)
    (room : pipe.channel.length < pipe.capacity) (item : Stream.Item) :
    (pipe.channel ++ [item]).length ≤ capacity := by
  have := sound.holds
  simp only [List.length_append, List.length_singleton]
  omega

private theorem all_accepted (sound : Sound capacity producer writes pipe)
    (opened : pipe.isOpen = true) : ∀ write ∈ writes, write.accepted = true := by
  intro write hwrite
  cases answer : write.accepted with
  | true => rfl
  | false =>
      have dropped := sound.dropped (sound.refused.mpr ⟨write, hwrite, answer⟩)
      exact nomatch opened.symm.trans dropped

theorem sent_of_open (sound : Sound capacity producer writes pipe) (opened : pipe.isOpen = true) :
    pipe.sent <+: producer.stream.items := by
  rw [sent, sound.accepted, sound.wrote.stream_items_eq (sound.all_accepted opened)]
  exact (List.prefix_append_right_inj _).mpr pipe.stage.failures_prefix

/-! ## One move -/

private theorem of_restaged (sound : Sound capacity producer writes pipe)
    (goesOn : pipe.isFinished = false) {stage : Stage} (rest : stage.rest = pipe.stage.rest)
    (failures : stage.failures = pipe.stage.failures) :
    Sound capacity producer writes { pipe with stage } := by
  have same : sent { pipe with stage } = pipe.sent := by simp only [sent, failures]
  exact { sound with
    wrote := rest ▸ sound.wrote
    flow := fun opened => (sound.flow opened).trans same.symm
    beginning := same ▸ sound.beginning
    ended := fun ended => nomatch (sound.not_ended goesOn).symm.trans ended }

variable {chunk : Bytes} {rest : Bool → Producer} {error : Error}

/-- A write that puts nothing into the channel. -/
private theorem of_answered (sound : Sound capacity producer writes pipe)
    (stage : pipe.stage = .writing (.write chunk rest)) {answer refused : Bool}
    (same : Write.chunks (writes ++ [⟨chunk, answer⟩]) = Write.chunks writes)
    (told : refused = (pipe.refused || !answer))
    (dropped : answer = false → pipe.isOpen = false) :
    Sound capacity producer (writes ++ [⟨chunk, answer⟩])
      { pipe with stage := .writing (rest answer), refused } := by
  have kept : sent { pipe with stage := .writing (rest answer), refused } = pipe.sent := by
    simp only [sent, stage, Stage.failures]
  exact { sound with
    wrote := (sound.wrote_of_writing stage).write answer
    accepted := sound.accepted.trans same.symm
    refused := by
      subst told
      simp [sound.refused, List.mem_append, or_and_right, exists_or]
    dropped := by
      subst told
      intro refused
      cases answer with
      | false => exact dropped rfl
      | true => exact sound.dropped (by simpa using refused)
    flow := fun opened => (sound.flow opened).trans kept.symm
    beginning := kept ▸ sound.beginning
    ended := fun ended =>
      nomatch (sound.not_ended (isFinished_of_writing stage)).symm.trans ended }

private theorem of_taken (sound : Sound capacity producer writes pipe)
    (stage : pipe.stage = .writing (.write chunk rest)) (content : chunk.isEmpty = false)
    (opened : pipe.isOpen = true) (room : pipe.channel.length < pipe.capacity) :
    Sound capacity producer (writes ++ [⟨chunk, true⟩])
      { pipe with
        stage := .writing (rest true)
        accepted := chunk :: pipe.accepted
        channel := pipe.channel ++ [.chunk chunk] } := by
  have before : pipe.sent = pipe.accepted.reverse.map .chunk := by
    simp only [sent, stage, Stage.failures, List.append_nil]
  exact { sound with
    wrote := (sound.wrote_of_writing stage).write true
    bounded := sound.bounded_append room _
    accepted := by
      rw [List.reverse_cons, sound.accepted, Write.chunks_accepted content]
    refused := by simp [sound.refused, List.mem_append, or_and_right, exists_or]
    discarded := fun closed => nomatch opened.symm.trans closed
    flow := fun _ => by
      simp only [← List.append_assoc, sound.flow opened, before]
      simp [sent, Stage.failures]
    beginning := by
      refine sound.beginning.trans ?_
      rw [before]
      simp [sent, Stage.failures]
    ended := fun ended =>
      nomatch (sound.not_ended (isFinished_of_writing stage)).symm.trans ended }

theorem sent_failed (stage : pipe.stage = .failing error) {channel : List Stream.Item} :
    sent { pipe with stage := .finished (.error error), channel } =
      pipe.sent ++ [.failure error.message] := by
  simp [sent, stage, Stage.failures]

private theorem of_unreported (sound : Sound capacity producer writes pipe)
    (stage : pipe.stage = .failing error) (dropped : pipe.isOpen = false) :
    Sound capacity producer writes { pipe with stage := .finished (.error error) } := by
  exact { sound with
    wrote := sound.wrote_of_failing stage
    flow := fun opened => nomatch dropped.symm.trans opened
    beginning := by
      rw [sent_failed stage]
      exact sound.beginning.trans (List.prefix_append _ _)
    ended := fun ended =>
      nomatch (sound.not_ended (isFinished_of_failing stage)).symm.trans ended }

private theorem of_reported (sound : Sound capacity producer writes pipe)
    (stage : pipe.stage = .failing error) (opened : pipe.isOpen = true)
    (room : pipe.channel.length < pipe.capacity) :
    Sound capacity producer writes
      { pipe with
        stage := .finished (.error error)
        channel := pipe.channel ++ [.failure error.message] } := by
  exact { sound with
    wrote := sound.wrote_of_failing stage
    bounded := sound.bounded_append room _
    discarded := fun closed => nomatch opened.symm.trans closed
    flow := fun _ => by
      rw [sent_failed stage, ← sound.flow opened]
      simp
    beginning := by
      rw [sent_failed stage]
      exact sound.beginning.trans (List.prefix_append _ _)
    ended := fun ended =>
      nomatch (sound.not_ended (isFinished_of_failing stage)).symm.trans ended }

private theorem of_pulled (sound : Sound capacity producer writes pipe) {item : Stream.Item}
    {items : List Stream.Item} (opened : pipe.isOpen = true) (goesOn : pipe.ended = false)
    (channel : pipe.channel = item :: items) :
    Sound capacity producer writes
      { pipe with channel := items, pulled := item :: pipe.pulled } := by
  have flow : (item :: pipe.pulled).reverse ++ items = pipe.sent := by
    rw [← sound.flow opened, channel]
    simp
  have beginning : (item :: pipe.pulled).reverse <+: pipe.sent := flow ▸ List.prefix_append _ _
  have room := sound.bounded
  rw [channel, List.length_cons] at room
  exact { sound with
    bounded := Nat.le_of_succ_le room
    discarded := fun closed => nomatch opened.symm.trans closed
    flow := fun _ => flow
    beginning := beginning
    read := beginning.trans (sound.sent_of_open opened)
    ended := fun ended => nomatch goesOn.symm.trans ended }

theorem of_moved {told : List Write} (sound : Sound capacity producer writes pipe)
    (step : Moved pipe told next) : Sound capacity producer (writes ++ told) next := by
  cases step with
  | finished stage =>
      rw [List.append_nil]
      exact sound.of_restaged (isFinished_of_writing stage) (by simp [stage, Stage.rest])
        (by simp [stage, Stage.failures])
  | failed stage =>
      rw [List.append_nil]
      exact sound.of_restaged (isFinished_of_writing stage) (by simp [stage, Stage.rest])
        (by simp [stage, Stage.failures])
  | skipped stage empty =>
      exact sound.of_answered stage (Write.chunks_skipped empty) (by simp) nofun
  | refused stage content dropped =>
      exact sound.of_answered stage Write.chunks_refused (by simp) fun _ => dropped
  | accepted stage content opened room => exact sound.of_taken stage content opened room
  | unreported stage dropped =>
      rw [List.append_nil]
      exact sound.of_unreported stage dropped
  | reported stage opened room =>
      rw [List.append_nil]
      exact sound.of_reported stage opened room
  | pulled opened goesOn channel =>
      rw [List.append_nil]
      exact sound.of_pulled opened goesOn channel
  | @ended result stage opened empty =>
      have all : pipe.pulled.reverse = pipe.sent := by
        rw [← sound.flow opened, empty, List.append_nil]
      rw [List.append_nil]
      exact { sound with ended := fun _ => ⟨isFinished_iff.mpr ⟨result, stage⟩, all⟩ }
  | closed opened =>
      rw [List.append_nil]
      exact { sound with
        bounded := Nat.zero_le capacity
        dropped := fun _ => rfl
        discarded := fun _ => rfl
        flow := nofun }

/-! ## Whole runs -/

theorem of_run (moves : List Move) (sound : Sound capacity producer writes pipe)
    (ran : pipe.run moves = some next) :
    Sound capacity producer (writes ++ pipe.answers moves) next := by
  -- The invariant speaks of the answers so far, which grow with every move.
  induction moves generalizing pipe writes with
  | nil =>
      cases ran
      simpa only [answers, List.append_nil] using sound
  | cons first rest ih =>
      rw [Pipe.run, Option.bind_eq_some_iff] at ran
      obtain ⟨middle, step, ran⟩ := ran
      have after := ih (sound.of_moved (moved_of_move step)) ran
      rwa [answers, step, Option.elim_some, ← List.append_assoc]

end Sound

/-! ## What a run has come to -/

/-- What holds of a pipe once its producer has got these answers to its writes. -/
structure Protocol (capacity : Nat) (producer : Producer) (writes : List Write) (pipe : Pipe) :
    Prop where
  wrote : producer.Wrote writes pipe.stage.rest
  bounded : pipe.channel.length ≤ capacity
  inOrder : pipe.pulledChunks <+: Write.chunks writes
  read : pipe.pulled.reverse <+: producer.stream.items
  /-- The body ends without a failure only after all of a producer that succeeded. -/
  cleanEnd : pipe.ended = true → (∀ message, .failure message ∉ pipe.pulled) →
    pipe.stage = .finished (.ok ()) ∧ pipe.pulledChunks = Write.chunks writes
  /-- What a producer that failed had written is followed by its failure, and that by the end. -/
  failedEnd : ∀ error, pipe.ended = true → pipe.stage = .finished (.error error) →
    pipe.pulled.reverse = (Write.chunks writes).map .chunk ++ [.failure error.message]
  failure : ∀ message, .failure message ∈ pipe.pulled →
    ∃ error, pipe.stage = .finished (.error error) ∧ message = error.message
  refusal : (∃ write ∈ writes, write.accepted = false) → pipe.isOpen = false
  producerWaits : pipe.ProducerWaits → ∃ next, pipe.pull = some next
  uploadWaits : pipe.UploadWaits → ∃ next, pipe.produce = some next
  succeeded : ∀ uploaded, pipe.result? uploaded = some (.ok ()) →
    pipe.stage = .finished (.ok ()) ∧ uploaded = .ok ()
  uploaded : ∀ uploaded, pipe.stage = .finished (.ok ()) → pipe.result? uploaded = some uploaded
  ownError : ∀ error uploaded, pipe.stage = .finished (.error error) →
    (∀ write ∈ writes, write.accepted = true) ∨ uploaded = .ok () →
    pipe.result? uploaded = some (.error error)
  uploadError : ∀ error first, pipe.stage = .finished (.error error) →
    (∃ write ∈ writes, write.accepted = false) →
    pipe.result? (.error first) = some (.error first)

private theorem filterMap_content_map (chunks : List Bytes) :
    (chunks.map Stream.Item.chunk).filterMap Stream.Item.content? = chunks := by
  induction chunks with
  | nil => rfl
  | cons chunk chunks ih => simpa [Stream.Item.content?] using ih

private theorem filterMap_content_failures (stage : Stage) :
    stage.failures.filterMap Stream.Item.content? = [] := by
  cases stage with
  | writing producer => rfl
  | failing error => rfl
  | finished result => cases result <;> rfl

private theorem mem_failures {stage : Stage} {message : String}
    (h : .failure message ∈ stage.failures) :
    ∃ error, stage = .finished (.error error) ∧ message = error.message := by
  unfold Stage.failures at h
  split at h
  · next error => exact ⟨error, rfl, by simpa using h⟩
  · exact nomatch h

private theorem failure_sent {message : String} (h : .failure message ∈ pipe.sent) :
    ∃ error, pipe.stage = .finished (.error error) ∧ message = error.message := by
  rw [sent, List.mem_append] at h
  rcases h with among | last
  · simp at among
  · exact mem_failures last

namespace Sound

variable (sound : Sound capacity producer writes pipe)

include sound

theorem sent_content : pipe.sent.filterMap Stream.Item.content? = Write.chunks writes := by
  rw [sent, List.filterMap_append, sound.accepted, filterMap_content_map,
    filterMap_content_failures, List.append_nil]

theorem finished_of_ended (ended : pipe.ended = true)
    (clean : ∀ message, .failure message ∉ pipe.pulled) :
    pipe.stage = .finished (.ok ()) ∧ pipe.pulledChunks = Write.chunks writes := by
  obtain ⟨finished, all⟩ := sound.ended ended
  refine ⟨?_, by rw [pulledChunks, all, sound.sent_content]⟩
  obtain ⟨result, stage⟩ := isFinished_iff.mp finished
  cases result with
  | ok value => exact stage
  | error error =>
      refine absurd (List.mem_reverse.mp ?_) (clean error.message)
      rw [all, sent, stage]
      exact List.mem_append_right _ (by simp [Stage.failures])

private theorem pull_of_waits (room : 0 < capacity) (waits : pipe.ProducerWaits) :
    ∃ next, pipe.pull = some next := by
  obtain ⟨opened, full⟩ := waits.capacity_le_length
  have goesOn := sound.not_ended waits.1
  -- The channel is full, and it holds at least one item.
  cases channel : pipe.channel with
  | nil =>
      rw [channel, sound.holds, List.length_nil] at full
      exact absurd room (by omega)
  | cons item items => exact ⟨_, by simp [pull, opened, goesOn, channel]; rfl⟩

private theorem produce_of_waits (room : 0 < capacity) (waits : pipe.UploadWaits) :
    ∃ next, pipe.produce = some next := by
  obtain ⟨opened, goesOn, stuck⟩ := waits
  have empty := UploadWaits.channel_eq_nil ⟨opened, goesOn, stuck⟩
  have unfinished : pipe.isFinished = false := by
    simpa [pull, opened, goesOn, empty] using stuck
  -- A producer that could not go on either would have found the empty channel full.
  cases made : pipe.produce with
  | some after => exact ⟨after, rfl⟩
  | none =>
      obtain ⟨opened, full⟩ := ProducerWaits.capacity_le_length ⟨unfinished, made⟩
      rw [empty, sound.holds, List.length_nil] at full
      exact absurd room (by omega)

theorem protocol_of_sound (room : 0 < capacity) : Protocol capacity producer writes pipe where
  wrote := sound.wrote
  bounded := sound.bounded
  inOrder := by
    rw [pulledChunks, ← sound.sent_content]
    exact sound.beginning.filterMap _
  read := sound.read
  cleanEnd := sound.finished_of_ended
  failedEnd error ended stage := by
    rw [(sound.ended ended).2, sent, sound.accepted, stage]
    rfl
  failure message pulled :=
    failure_sent (sound.beginning.mem (List.mem_reverse.mpr pulled))
  refusal some := sound.dropped (sound.refused.mpr some)
  producerWaits := sound.pull_of_waits room
  uploadWaits := sound.produce_of_waits room
  succeeded uploaded result := by
    unfold result? at result
    split at result
    · next stage => exact ⟨stage, by simpa using result⟩
    · next error stage => split at result <;> (try split at result) <;> exact nomatch result
    · exact nomatch result
  uploaded uploaded stage := by simp [result?, stage]
  ownError error uploaded stage reason := by
    rcases reason with all | rfl
    · have kept : pipe.refused = false := by
        cases refused : pipe.refused with
        | false => rfl
        | true =>
            obtain ⟨write, hwrite, answer⟩ := sound.refused.mp refused
            exact nomatch (all write hwrite).symm.trans answer
      simp [result?, stage, kept]
    · cases refused : pipe.refused <;> simp [result?, stage, refused]
  uploadError error first stage some := by simp [result?, stage, sound.refused.mpr some]

end Sound

end Pipe

namespace Object

variable {σ : Type}

theorem channelCapacity_pos (settings : Settings) : 0 < channelCapacity settings :=
  Nat.lt_of_lt_of_le Nat.one_pos (Nat.le_max_left _ _)

theorem attempt_uploadFrom (transport : Transport σ) (producer : Producer) (options : Options)
    (object : Object) (state : σ) :
    ∃ moves pipe result,
      (Pipe.start (channelCapacity object.site.settings) producer).run moves = some pipe ∧
      (uploadFrom transport producer options).attempt (object, state) =
        (result, (uploading transport (.stream producer.stream) options (object, state)).2) ∧
      pipe.result?
        (uploading transport (.stream producer.stream) options (object, state)).1.result =
          some result := by
  generalize uploads : uploading transport (.stream producer.stream) options (object, state) = done
  obtain ⟨uploaded, after⟩ := done
  obtain ⟨pipe, ran, finished⟩ :=
    exists_written (channelCapacity_pos object.site.settings) uploaded.pulled producer
  obtain ⟨result, stage⟩ := Pipe.isFinished_iff.mp finished
  have whole : ∃ result, pipe.result? uploaded.result = some result := by
    cases result with
    | ok value => exact ⟨uploaded.result, by simp [Pipe.result?, stage]⟩
    | error error =>
        cases refused : pipe.refused <;> cases own : uploaded.result <;>
          simp [Pipe.result?, stage, refused]
  obtain ⟨result, whole⟩ := whole
  refine ⟨_, pipe, result, ran, ?_, whole⟩
  simp only [uploadFrom, Remote.attempt_bind, Remote.attempt_get, Remote.attempt_ofState, uploads,
    Remote.attempt_ofExcept, ran, Option.bind_some, whole, Option.getD_some]

/--
However the moves of a producer and of an upload follow on each other, they keep to the protocol;
and the result of the whole is the result after such moves.
-/
theorem writer_protocol (producer : Producer) (settings : Settings) :
    (∀ moves pipe,
      (Pipe.start (channelCapacity settings) producer).run moves = some pipe →
      Pipe.Protocol (channelCapacity settings) producer
        ((Pipe.start (channelCapacity settings) producer).answers moves) pipe) ∧
    ∀ (σ : Type) (transport : Transport σ) (options : Options) (object : Object) (state : σ),
      object.site.settings = settings →
      ∃ moves pipe result,
        (Pipe.start (channelCapacity settings) producer).run moves = some pipe ∧
        (uploadFrom transport producer options).attempt (object, state) =
          (result, (uploading transport (.stream producer.stream) options (object, state)).2) ∧
        pipe.result?
          (uploading transport (.stream producer.stream) options (object, state)).1.result =
            some result := by
  constructor
  · intro moves pipe ran
    have sound := (Pipe.sound_start (channelCapacity settings) producer).of_run moves ran
    exact sound.protocol_of_sound (channelCapacity_pos settings)
  · rintro σ transport options object state rfl
    exact attempt_uploadFrom transport producer options object state

/-- The second write is refused, and the error of the upload is the result. -/
theorem writer_protocol_refused :
    ∃ pipe, (Pipe.start (channelCapacity ⟨1, 0⟩) (.ofChunks (.ok ()) [[104], [105]])).run
        [.produce, .close, .produce, .produce, .produce] = some pipe ∧
      Pipe.Protocol (channelCapacity ⟨1, 0⟩) (.ofChunks (.ok ()) [[104], [105]])
        [⟨[104], true⟩, ⟨[105], false⟩] pipe ∧
      pipe.result? (.error (.checksumMismatch "" "")) = some (.error (.checksumMismatch "" "")) :=
  ⟨_, rfl,
    (writer_protocol (.ofChunks (.ok ()) [[104], [105]]) ⟨1, 0⟩).1
      [.produce, .close, .produce, .produce, .produce] _ rfl, rfl⟩

end Object

end ObjectStorage
