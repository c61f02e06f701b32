import ObjectStorage.Object.Transfer
import ObjectStorage.Proofs.Text.Decoded
import ObjectStorage.Proofs.Writer.Moves

/-!
# Views of a body

What is read of a body is the same in every way of reading it.  The items of its stream are put
together or discarded one after the other, and the first failure ends both; a body that can be
copied is one whose content is at hand, and the content as text has the bytes that are read.
-/

namespace ObjectStorage

/-! ## Items one after the other -/

namespace Stream

/-- The stream that gives the items; nothing is read after a failure. -/
def ofItems : List Item → Stream
  | [] => ⟨[], none⟩
  | .chunk content :: rest => { ofItems rest with chunks := content :: (ofItems rest).chunks }
  | .failure message :: _ => ⟨[], some message⟩

private theorem ofItems_chunks (chunks : List Bytes) (rest : List Item) :
    ofItems (chunks.map .chunk ++ rest) =
      { ofItems rest with chunks := chunks ++ (ofItems rest).chunks } := by
  induction chunks with
  | nil => rfl
  | cons content chunks ih => rw [List.map_cons, List.cons_append, ofItems, ih, List.cons_append]

theorem collect_all (chunks : List Bytes) :
    collect [] (chunks.map .chunk) = .ok chunks.flatten := by
  rw [← List.append_nil (chunks.map _), collect_chunks]
  rfl

theorem collect_failure (chunks : List Bytes) (message : String) (after : List Item) :
    collect [] (chunks.map .chunk ++ .failure message :: after) =
      .error (.io (.stated message)) := by
  rw [collect_chunks]
  rfl

theorem discard_eq_map_collect (before : Bytes) (items : List Item) :
    discard items = (collect before items).map fun _ => () := by
  induction items generalizing before with
  | nil => rfl
  | cons item rest ih =>
      cases item with
      | failure message => rfl
      | chunk content => rw [discard, collect, ih (before ++ content)]

/-- What comes after a first failure is not read. -/
theorem collect_items_ofItems (before : Bytes) (items : List Item) :
    collect before (ofItems items).items = collect before items := by
  induction items generalizing before with
  | nil => rfl
  | cons item rest ih =>
      cases item with
      | failure message => rfl
      | chunk content => exact ih (before ++ content)

private theorem discard_items_ofItems (items : List Item) :
    discard (ofItems items).items = discard items := by
  rw [discard_eq_map_collect [], collect_items_ofItems, ← discard_eq_map_collect]

theorem items_cases (items : List Item) :
    (∃ chunks : List Bytes, items = chunks.map .chunk) ∨
    ∃ (before : List Bytes) (message : String) (after : List Item),
      items = before.map .chunk ++ .failure message :: after := by
  induction items with
  | nil => exact .inl ⟨[], rfl⟩
  | cons item rest ih =>
      cases item with
      | failure message => exact .inr ⟨[], message, rest, rfl⟩
      | chunk content =>
          obtain ⟨chunks, rfl⟩ | ⟨before, message, after, rfl⟩ := ih
          · exact .inl ⟨content :: chunks, rfl⟩
          · exact .inr ⟨content :: before, message, after, rfl⟩

theorem ofItems_items (stream : Stream) : ofItems stream.items = stream := by
  obtain ⟨chunks, failure⟩ := stream
  rw [items, ofItems_chunks]
  cases failure <;> simp [ofItems]

end Stream

namespace Body

variable {body : Body} {items : List Stream.Item}

/-! ## Reading and draining -/

/-- The items that a body holds; what is in memory is one chunk. -/
inductive Holds : Body → List Stream.Item → Prop
  | empty : Holds .empty []
  | bytes (content : Bytes) : Holds (.bytes content) [.chunk content]
  | stream (items : List Stream.Item) : Holds (.stream (Stream.ofItems items)) items

theorem exists_holds (body : Body) : ∃ items, body.Holds items := by
  cases body with
  | empty => exact ⟨_, .empty⟩
  | bytes content => exact ⟨_, .bytes content⟩
  | stream source =>
      have holds := Holds.stream source.items
      rw [Stream.ofItems_items] at holds
      exact ⟨_, holds⟩

theorem Holds.toStream_eq (holds : body.Holds items) : body.toStream = Stream.ofItems items := by
  cases holds <;> rfl

theorem read_eq_collect (holds : body.Holds items) : body.read = Stream.collect [] items := by
  cases holds with
  | empty => rfl
  | bytes content => rfl
  | stream items => exact Stream.collect_items_ofItems [] items

theorem drain_eq_discard (holds : body.Holds items) : body.drain = Stream.discard items := by
  cases holds with
  | empty => rfl
  | bytes content => rfl
  | stream items => exact Stream.discard_items_ofItems items

theorem drain_eq_map_read (body : Body) : body.drain = body.read.map fun _ => () := by
  obtain ⟨items, holds⟩ := exists_holds body
  rw [drain_eq_discard holds, read_eq_collect holds, ← Stream.discard_eq_map_collect]

theorem read_eq_ok_iff (holds : body.Holds items) {content : Bytes} :
    body.read = .ok content ↔
      ∃ chunks : List Bytes, items = chunks.map .chunk ∧ content = chunks.flatten := by
  rw [read_eq_collect holds]
  constructor
  · intro h
    obtain ⟨chunks, rfl⟩ | ⟨before, message, after, rfl⟩ := Stream.items_cases items
    · rw [Stream.collect_all] at h
      exact ⟨chunks, rfl, (Except.ok.inj h).symm⟩
    · rw [Stream.collect_failure] at h
      cases h
  · rintro ⟨chunks, rfl, rfl⟩
    exact Stream.collect_all chunks

theorem read_eq_error_iff (holds : body.Holds items) {error : Error} :
    body.read = .error error ↔
      ∃ (before : List Bytes) (message : String) (after : List Stream.Item),
        items = before.map .chunk ++ .failure message :: after ∧
          error = .io (.stated message) := by
  rw [read_eq_collect holds]
  constructor
  · intro h
    obtain ⟨chunks, rfl⟩ | ⟨before, message, after, rfl⟩ := Stream.items_cases items
    · rw [Stream.collect_all] at h
      cases h
    · rw [Stream.collect_failure] at h
      exact ⟨before, message, after, rfl, (Except.error.inj h).symm⟩
  · rintro ⟨before, message, after, rfl, rfl⟩
    exact Stream.collect_failure before message after

theorem drain_eq_ok_iff : body.drain = .ok () ↔ ∃ content, body.read = .ok content := by
  rw [drain_eq_map_read]
  cases body.read <;> simp [Except.map]

theorem drain_eq_error_iff {error : Error} :
    body.drain = .error error ↔ body.read = .error error := by
  rw [drain_eq_map_read]
  cases body.read <;> simp [Except.map]

private theorem read_eq_ok_iff_toStream {content : Bytes} :
    body.read = .ok content ↔
      body.toStream.failure = none ∧ content = body.toStream.chunks.flatten := by
  cases failure : body.toStream.failure with
  | none => simp [read_of_ended failure, eq_comm]
  | some message => simp [read_of_broken failure]

/-! ## Copies -/

theorem content?_of_copy? {copy : Body} (copied : body.copy? = some copy) :
    copy = body ∧ ∃ content, body.content? = some content ∧ body.read = .ok content := by
  cases body with
  | empty => exact ⟨(Option.some.inj copied).symm, [], rfl, rfl⟩
  | bytes content => exact ⟨(Option.some.inj copied).symm, content, rfl, rfl⟩
  | stream source => cases copied

private theorem isSome_copy? (body : Body) : body.copy?.isSome = body.content?.isSome := by
  cases body <;> rfl

/-! ## Texts -/

theorem text_of_unread {download : Object.Download} {error : Error}
    (unread : download.body.read = .error error) : download.text = .error error := by
  unfold Object.Download.text
  rw [unread]
  rfl

theorem text_of_read {download : Object.Download} {content : Bytes}
    (readable : download.body.read = .ok content) :
    download.text = (Utf8.decode content).mapError fun fault => .badResponse (.notText fault) := by
  unfold Object.Download.text
  rw [readable]
  rfl

theorem text_eq_ok_iff {download : Object.Download} {text : String} :
    download.text = .ok text ↔ download.body.read = .ok (Utf8.ofText text) := by
  cases hread : download.body.read with
  | error error => simp [text_of_unread hread]
  | ok content =>
      rw [text_of_read hread, Except.ok.injEq, eq_comm (a := content), ← Utf8.decode_eq_ok_iff]
      cases Utf8.decode content with
      | ok given =>
          constructor
          · intro h
            cases h
            rfl
          · intro h
            cases h
            rfl
      | error fault => constructor <;> (intro h; cases h)

theorem text_eq_error {download : Object.Download} {error : Error}
    (failed : download.text = .error error) :
    download.body.read = .error error ∨
    ∃ content fault, download.body.read = .ok content ∧ (∀ text, Utf8.ofText text ≠ content) ∧
      error = .badResponse (.notText fault) := by
  cases hread : download.body.read with
  | error cause =>
      obtain rfl : cause = error := Except.error.inj ((text_of_unread hread).symm.trans failed)
      exact .inl rfl
  | ok content =>
      rw [text_of_read hread] at failed
      cases hdecode : Utf8.decode content with
      | ok text =>
          rw [hdecode] at failed
          cases failed
      | error fault =>
          rw [hdecode] at failed
          refine .inr ⟨content, fault, rfl, fun text same => ?_, (Except.error.inj failed).symm⟩
          rw [Utf8.decode_eq_ok_iff.mpr same] at hdecode
          cases hdecode

/-! ## All views -/

/-- What the views of a body that holds the items have in common. -/
structure Agrees (body : Body) (items : List Stream.Item) : Prop where
  collected : body.read = Stream.collect [] items
  discarded : body.drain = Stream.discard items
  read : ∀ content, body.read = .ok content ↔
    ∃ chunks : List Bytes, items = chunks.map .chunk ∧ content = chunks.flatten
  streamed : body.toStream = Stream.ofItems items
  concatenated : ∀ content, body.read = .ok content ↔
    body.toStream.failure = none ∧ content = body.toStream.chunks.flatten
  failed : ∀ error, body.read = .error error ↔
    ∃ (before : List Bytes) (message : String) (after : List Stream.Item),
      items = before.map .chunk ++ .failure message :: after ∧ error = .io (.stated message)
  drained : body.drain = .ok () ↔ ∃ content, body.read = .ok content
  undrained : ∀ error, body.drain = .error error ↔ body.read = .error error
  copies : body.copy?.isSome = body.content?.isSome
  copied : ∀ copy, body.copy? = some copy → ∃ content, body.content? = some content ∧
    body.read = .ok content ∧ copy.content? = some content ∧ copy.read = .ok content

/--
Every body holds some items.  However these are cut into chunks and wherever one of them is a
failure, reading, draining, streaming and copying the body agree about its content or about the
first failure.  As a text it is given exactly if what is read is UTF-8, and the text has the bytes
that are read.
-/
theorem views_agree (body : Body) :
    (∃ items, body.Holds items) ∧
    (∀ items, body.Holds items → body.Agrees items) ∧
    ∀ headers, let download : Object.Download := ⟨headers, body⟩
      (∀ text, download.text = .ok text ↔ body.read = .ok (Utf8.ofText text)) ∧
      ∀ error, download.text = .error error →
        body.read = .error error ∨
        ∃ content fault, body.read = .ok content ∧ (∀ text, Utf8.ofText text ≠ content) ∧
          error = .badResponse (.notText fault) := by
  refine ⟨exists_holds body, fun items holds => {
    collected := read_eq_collect holds
    discarded := drain_eq_discard holds
    read := fun _ => read_eq_ok_iff holds
    streamed := holds.toStream_eq
    concatenated := fun _ => read_eq_ok_iff_toStream
    failed := fun _ => read_eq_error_iff holds
    drained := drain_eq_ok_iff
    undrained := fun _ => drain_eq_error_iff
    copies := isSome_copy? body
    copied := fun copy hcopy => ?_ },
    fun headers => ⟨fun _ => text_eq_ok_iff, fun _ => text_eq_error⟩⟩
  obtain ⟨rfl, content, held, hread⟩ := content?_of_copy? hcopy
  exact ⟨content, held, hread, held, hread⟩

/-- A character may be cut in two by an empty chunk, and what comes after a failure is not read. -/
theorem views_agree_cut_character :
    ∃ whole broken : Body,
      whole.Holds [.chunk [0x63, 0xC3], .chunk [], .chunk [0xA9]] ∧
      broken.Holds [.chunk [0x63, 0xC3], .failure "connection reset", .chunk [0xA9],
        .failure "late"] ∧
      Object.Download.text ⟨.empty, whole⟩ = .ok "cé" ∧
      Object.Download.text ⟨.empty, broken⟩ = .error (.io (.stated "connection reset")) ∧
      broken.drain = .error (.io (.stated "connection reset")) := by
  let first : List Stream.Item := [.chunk [0x63, 0xC3], .chunk [], .chunk [0xA9]]
  let second : List Stream.Item :=
    [.chunk [0x63, 0xC3], .failure "connection reset", .chunk [0xA9], .failure "late"]
  obtain ⟨-, agrees, text⟩ := views_agree (.stream (Stream.ofItems first))
  have whole := agrees first (.stream first)
  have broken := (views_agree (.stream (Stream.ofItems second))).2.1 second (.stream second)
  have failed := (broken.failed _).mpr ⟨[[0x63, 0xC3]], "connection reset", _, rfl, rfl⟩
  refine ⟨_, _, .stream first, .stream second, ((text .empty).1 "cé").mpr ?_,
    text_of_unread failed, (broken.undrained _).mpr failed⟩
  exact (whole.read _).mpr ⟨[[0x63, 0xC3], [], [0xA9]], rfl, by decide⟩

end Body

end ObjectStorage
