import ObjectStorage.Account
import ObjectStorage.Bulk.Delete
import ObjectStorage.Bulk.Upload
import ObjectStorage.Listing.Loop
import ObjectStorage.Proofs.Writer.Protocol
import ObjectStorage.Proofs.Cache.Handles

/-!
# Operations go through the transport

What an operation does to the state of the transport is done by requests, one after the other.  No
operation makes an auth fault of its own: those that it fails with came with an answer, or from the
code of the caller that it runs.
-/

namespace ObjectStorage

/-- Whether the error is what came of one of the requests. -/
def Gave (sends : Sends) (error : Error) : Prop := ∃ send ∈ sends, send.2.result = .error error

section

variable {first second : Sends} {error : Error}

theorem Gave.append_left (gave : Gave first error) : Gave (first ++ second) error := by
  obtain ⟨send, sent, answer⟩ := gave
  exact ⟨send, List.mem_append_left _ sent, answer⟩

theorem Gave.append_right (gave : Gave second error) : Gave (first ++ second) error := by
  obtain ⟨send, sent, answer⟩ := gave
  exact ⟨send, List.mem_append_right _ sent, answer⟩

end

/-! ## Results without auth faults -/

def IsPlain {α : Type} (result : Except Error α) : Prop := ∀ fault, result ≠ .error (.auth fault)

namespace IsPlain

variable {α β : Type}

theorem ok (value : α) : IsPlain (.ok value) := nofun

theorem error {error : Error} (plain : ∀ fault, error ≠ .auth fault) :
    IsPlain (.error error : Except Error α) := by
  intro fault failed
  cases failed
  exact plain fault rfl

theorem bind {first : Except Error α} {next : α → Except Error β} (plain : IsPlain first)
    (rest : ∀ value, IsPlain (next value)) : IsPlain (first >>= next) := by
  intro fault failed
  rcases error_of_bind failed with failed | ⟨value, -, failed⟩
  · exact plain fault failed
  · exact rest value fault failed

theorem map {result : Except Error α} (change : α → β) (plain : IsPlain result) :
    IsPlain (result.map change) := by
  cases result with
  | ok value => exact ok _
  | error error => exact fun fault failed => plain fault (congrArg _ (Except.error.inj failed))

theorem mapError {ε : Type} (result : Except ε α) {change : ε → Error}
    (plain : ∀ cause fault, change cause ≠ .auth fault) : IsPlain (result.mapError change) := by
  intro fault failed
  obtain ⟨cause, failed⟩ := error_of_mapError failed
  exact plain cause fault failed.symm

theorem mapM {list : List α} {operation : α → Except Error β}
    (plain : ∀ value, IsPlain (operation value)) : IsPlain (list.mapM operation) := by
  induction list with
  | nil => exact ok []
  | cons value rest ih =>
      rw [List.mapM_cons]
      exact bind (plain value) fun _ => bind ih fun _ => ok _

end IsPlain

theorem Body.isPlain_read (body : Body) : IsPlain body.read := by
  rcases body.read_cases with ⟨content, read⟩ | ⟨fault, unread⟩
  · rw [read]
    exact .ok content
  · rw [unread]
    exact .error nofun

theorem Body.isPlain_drain (body : Body) : IsPlain body.drain := by
  rcases body.drain_cases with drained | ⟨fault, failed⟩
  · rw [drained]
    exact .ok ()
  · rw [failed]
    exact .error nofun

private theorem Field.isPlain_validate {α : Type} (field : Field α) (headers : Headers) :
    IsPlain (field.validate headers) := by
  unfold Field.validate
  apply IsPlain.map
  unfold Field.get
  split
  · exact .ok _
  · exact .ok _
  · split
    · exact .ok _
    · exact .error nofun

private theorem Headers.isPlain_validate (kind : Kind) (headers : Headers) :
    IsPlain (headers.validate kind) := by
  unfold Headers.validate
  induction kind.checked with
  | nil => exact .ok ()
  | cons field rest ih =>
      refine .bind ?_ fun _ => ih
      cases field <;> exact Field.isPlain_validate _ headers

theorem Bulk.Report.isPlain_parse (content : Bytes) : IsPlain (Bulk.Report.parse content) := by
  unfold Bulk.Report.parse
  split
  · exact .ok _
  · exact .error nofun

private theorem Object.isPlain_verify (hashed : Option (List Bytes)) (pulled : Nat)
    (fields : Http.Fields) : IsPlain (Object.verify hashed pulled fields) := by
  unfold Object.verify
  split
  · exact .ok ()
  · dsimp only
    split
    · exact .ok ()
    · exact .error nofun

namespace Listing

private theorem isPlain_pageContent (response : Http.Response) :
    IsPlain (pageContent response) := by
  unfold pageContent
  split
  · exact .bind response.body.isPlain_drain fun _ => .ok _
  · exact response.body.isPlain_read

private theorem isPlain_recordsOf {kind : Kind} (scope : Scope kind) (content : Bytes) :
    IsPlain (recordsOf scope content) := by
  unfold recordsOf
  split
  · exact .ok _
  · split
    · exact .ok _
    · exact .error nofun

private theorem isPlain_detailsFrom {kind : Kind} (position : Nat) (records : List (Record kind)) :
    IsPlain (detailsFrom position records) := by
  induction records generalizing position with
  | nil => exact .ok []
  | cons record rest ih =>
      exact .bind (.mapError _ nofun) fun _ => .bind (ih _) fun _ => .ok _

end Listing

/-! ## Going through the transport -/

namespace Remote

variable {σ τ υ α β : Type} {transport : Transport σ} {view : τ → σ} {own : AuthFault → Prop}

/--
Whether the operation changes what it sees of the state by requests alone, and passes on what auth
faults come of them, besides those of its own.
-/
def Through (transport : Transport σ) (view : τ → σ) (own : AuthFault → Prop)
    (operation : Remote τ α) : Prop :=
  ∀ state, ∃ sends, transport.Answers sends (view state) (view (operation.attempt state).2) ∧
    ∀ fault, (operation.attempt state).1 = .error (.auth fault) →
      own fault ∨ Gave sends (.auth fault)

namespace Through

theorem of_unsent {operation : Remote τ α}
    (kept : ∀ state, view (operation.attempt state).2 = view state)
    (plain : ∀ state, IsPlain (operation.attempt state).1) :
    Through transport view own operation := by
  intro state
  refine ⟨[], kept state, ?_⟩
  intro fault failed
  exact absurd failed (plain state fault)

theorem ofExcept {result : Except Error α} (plain : IsPlain result) :
    Through transport view own (Remote.ofExcept result : Remote τ α) := by
  apply of_unsent
  · intro state
    rw [attempt_ofExcept]
  · intro state
    rw [attempt_ofExcept]
    exact plain

theorem pure (value : α) : Through transport view own (pure value : Remote τ α) :=
  of_unsent (fun _ => rfl) fun _ => .ok value

theorem throw {error : Error} (plain : ∀ fault, error ≠ .auth fault) :
    Through transport view own (throw error : Remote τ α) :=
  of_unsent (fun _ => rfl) fun _ => .error plain

theorem get : Through transport view own (get : Remote τ τ) :=
  of_unsent (fun _ => rfl) fun state => .ok state

theorem modify {change : τ → τ} (kept : ∀ state, view (change state) = view state) :
    Through transport view own (modify change : Remote τ PUnit) :=
  of_unsent kept fun _ => .ok _

theorem bind {operation : Remote τ α} {next : α → Remote τ β}
    (first : Through transport view own operation)
    (rest : ∀ value, Through transport view own (next value)) :
    Through transport view own (operation >>= next) := by
  intro state
  obtain ⟨sends, answers, faults⟩ := first state
  rw [attempt_bind]
  cases run : operation.attempt state with
  | mk result reached =>
  rw [run] at answers faults
  cases result with
  | error error => exact ⟨sends, answers, fun fault failed => faults fault (by cases failed; rfl)⟩
  | ok value =>
      obtain ⟨others, more, faults⟩ := rest value reached
      refine ⟨sends ++ others, answers.append more, ?_⟩
      intro fault failed
      exact (faults fault failed).imp_right Gave.append_right

theorem map (change : α → β) {operation : Remote τ α}
    (through : Through transport view own operation) :
    Through transport view own (change <$> operation) := by
  intro state
  obtain ⟨sends, answers, faults⟩ := through state
  rw [attempt_map]
  refine ⟨sends, answers, ?_⟩
  intro fault failed
  apply faults fault
  cases result : (operation.attempt state).1 with
  | ok value => simp [result, Except.map] at failed
  | error error => simpa [result, Except.map] using failed

theorem onSecond {operation : Remote τ α} (through : Through transport view own operation) :
    Through transport (fun state : υ × τ => view state.2) own (Remote.onSecond operation) := by
  rintro ⟨first, state⟩
  obtain ⟨sends, answers, faults⟩ := through state
  rw [attempt_onSecond]
  exact ⟨sends, answers, faults⟩

theorem mono {operation : Remote τ α} {more : AuthFault → Prop}
    (through : Through transport view own operation) (le : ∀ fault, own fault → more fault) :
    Through transport view more operation := by
  intro state
  obtain ⟨sends, answers, faults⟩ := through state
  exact ⟨sends, answers, fun fault failed => (faults fault failed).imp_left (le fault)⟩

end Through

end Remote

open Remote (Through)

variable {σ : Type} {transport : Transport σ} {own : AuthFault → Prop}

/-! ## Requests -/

namespace Request

theorem exchange_through (transport : Transport σ) (request : Request) (endpoint : Url)
    (state : σ) :
    ∃ sends, transport.Answers sends state (request.exchange transport endpoint state).2 ∧
      ∀ fault, (request.exchange transport endpoint state).1.result = .error (.auth fault) →
        Gave sends (.auth fault) := by
  rcases request.exchange_cases transport endpoint state with
    ⟨error, unwritten, run⟩ | ⟨message, sent, concluded, next, -, send, run, conclusion⟩
  · rw [run]
    refine ⟨[], rfl, ?_⟩
    rintro fault ⟨⟩
    rcases error_of_unwritten unwritten with ⟨_, plain⟩ | ⟨_, _, plain⟩ <;> exact nomatch plain
  · rw [run]
    refine ⟨[(message, sent)], ⟨next, send, rfl⟩, ?_⟩
    intro fault failed
    refine ⟨(message, sent), List.mem_singleton_self _, ?_⟩
    cases conclusion with
    | unanswered => exact failed
    | refused refusal =>
        cases failed
        cases refusal
    | accepted => exact nomatch failed

theorem execute_through (request : Request) (endpoint : Url) :
    Through transport id own (request.execute transport endpoint) := by
  intro state
  obtain ⟨sends, answers, faults⟩ := request.exchange_through transport endpoint state
  rw [attempt_execute]
  exact ⟨sends, answers, fun fault failed => .inr (faults fault failed)⟩

end Request

/-! ## Handles -/

namespace Handle

variable {kind : Kind}

theorem execute_through (request : Request) :
    Through transport Prod.snd own
      (Handle.execute transport request : Remote (Handle kind × σ) Http.Response) :=
  .bind .get fun _ => .onSecond (request.execute_through _)

theorem keep_through (response : Http.Response) :
    Through transport Prod.snd own (Handle.keep response : Remote (Handle kind × σ) Headers) :=
  .bind (.ofExcept (Headers.isPlain_validate kind _)) fun _ =>
    .bind (.modify fun _ => rfl) fun _ => .pure _

theorem headers_through :
    Through transport Prod.snd own
      (Handle.headers transport : Remote (Handle kind × σ) Headers) := by
  refine .bind .get ?_
  rintro ⟨handle, state⟩
  dsimp only
  split
  · exact .pure _
  · exact .bind (execute_through _) keep_through

theorem exists?_through :
    Through transport Prod.snd own (Handle.exists? transport : Remote (Handle kind × σ) Bool) := by
  have looks : Through transport Prod.snd own
      (Handle.headers transport : Remote (Handle kind × σ) Headers) := headers_through
  rintro ⟨handle, state⟩
  obtain ⟨sends, answers, faults⟩ := looks (handle, state)
  rw [attempt_exists?]
  refine ⟨sends, answers, ?_⟩
  intro fault failed
  apply faults fault
  unfold foundBy at failed
  split at failed
  · exact nomatch failed
  · next error looked =>
      split at failed
      · exact nomatch failed
      · cases failed
        exact looked

theorem invalidate_through :
    Through transport Prod.snd own (Handle.invalidate : Remote (Handle kind × σ) Unit) :=
  .modify fun _ => rfl

theorem change_through (method : Http.Method) (options : Options) (expected : List Http.Status) :
    Through transport Prod.snd own
      (Handle.change transport method options expected : Remote (Handle kind × σ) Unit) :=
  .bind .get fun _ => .bind (execute_through _) fun _ => invalidate_through

end Handle

theorem Account.capabilities_through (account : Account) :
    Through transport id own (Account.capabilities transport account) := by
  refine .bind (.ofExcept (.mapError _ nofun)) fun root => ?_
  refine .bind (Request.execute_through _ _) fun response => ?_
  refine .bind (.ofExcept response.body.isPlain_read) fun content => ?_
  split
  · exact .pure _
  · exact .throw nofun

theorem Container.ensureExists_through :
    Through transport Prod.snd own (Container.ensureExists transport) := by
  refine .bind Handle.exists?_through fun found => ?_
  cases found with
  | true => exact .pure _
  | false => exact Handle.change_through _ _ _

/-! ## Objects -/

namespace Object

theorem uploading_through (transport : Transport σ) (object : Object) (body : Body)
    (options : Options) (state : σ) :
    ∃ sends, transport.Answers sends state
        (uploading transport body options (object, state)).2.2 ∧
      ∀ fault, (uploading transport body options (object, state)).1.result =
        .error (.auth fault) → Gave sends (.auth fault) := by
  obtain ⟨sends, answers, faults⟩ :=
    (object.put body options).exchange_through transport object.site.endpoint state
  rw [uploading_eq]
  cases run : (object.put body options).exchange transport object.site.endpoint state with
  | mk exchange next =>
  rw [run] at answers faults
  obtain ⟨result, pulled⟩ := exchange
  cases result with
  | error error => exact ⟨sends, answers, fun fault failed => faults fault (by cases failed; rfl)⟩
  | ok response =>
      exact ⟨sends, answers, fun fault failed => absurd failed (isPlain_verify _ _ _ fault)⟩

theorem upload_through (body : Body) (options : Options) :
    Through transport Prod.snd own (Object.upload transport body options) := by
  rintro ⟨object, state⟩
  obtain ⟨sends, answers, faults⟩ := uploading_through transport object body options state
  unfold Object.upload
  rw [Remote.attempt_bind, Remote.attempt_ofState]
  dsimp only
  rw [Remote.attempt_ofExcept]
  exact ⟨sends, answers, fun fault failed => .inr (faults fault failed)⟩

/-- The producer can end with an error of its own. -/
theorem uploadFrom_through (producer : Producer) (options : Options) :
    Through transport Prod.snd
      (fun fault => ∃ writes, producer.Wrote writes (.finish (.error (.auth fault))))
      (Object.uploadFrom transport producer options) := by
  rintro ⟨object, state⟩
  obtain ⟨sends, answers, faults⟩ :=
    uploading_through transport object (.stream producer.stream) options state
  obtain ⟨moves, pipe, result, ran, run, whole⟩ :=
    attempt_uploadFrom transport producer options object state
  rw [run]
  refine ⟨sends, answers, ?_⟩
  rintro fault rfl
  have wrote := ((Pipe.sound_start (channelCapacity object.site.settings) producer).of_run moves
    ran).wrote
  unfold Pipe.result? at whole
  split at whole
  · exact .inr (faults fault (Option.some.inj whole))
  · next error stage =>
      rw [stage] at wrote
      split at whole
      · split at whole
        · cases whole
          exact .inl ⟨_, wrote⟩
        · next first uploaded => exact .inr (faults fault (uploaded.trans (Option.some.inj whole)))
      · cases whole
        exact .inl ⟨_, wrote⟩
  · exact nomatch whole

theorem download_through (options : Options) :
    Through transport Prod.snd own (Object.download transport options) :=
  .bind .get fun _ => .bind (Handle.execute_through _) fun response =>
    .bind (Handle.keep_through response) fun _ => .pure _

theorem copyFrom_through (source : Object) (options : Options) :
    Through transport Prod.snd own (Object.copyFrom transport source options) := by
  refine .bind .get ?_
  rintro ⟨target, state⟩
  exact .bind (.ofExcept (.mapError _ nofun)) fun _ =>
    .bind (.onSecond (Request.execute_through _ _)) fun _ => Handle.invalidate_through

theorem move_through (options deleteOptions : Options) :
    Through transport (fun state : Object × Object × σ => state.2.2) own
      (Object.move transport options deleteOptions) := by
  refine .bind .get ?_
  rintro ⟨source, target, state⟩
  refine .bind (.onSecond (copyFrom_through source options)) fun _ => ?_
  rintro ⟨source, target, state⟩
  have deletes : Through transport Prod.snd own
      (Handle.change transport .delete deleteOptions [.noContent] : Remote (Object × σ) Unit) :=
    Handle.change_through _ _ _
  obtain ⟨sends, answers, faults⟩ := deletes (source, state)
  unfold Object.delete
  rw [Handle.attempt_change] at answers faults ⊢
  rw [Request.attempt_execute_onSecond]
  cases run : ((source.request .delete deleteOptions [.noContent]).execute transport
      source.site.endpoint).attempt state with
  | mk result next =>
  rw [run] at answers faults
  cases result <;> exact ⟨sends, answers, faults⟩

end Object

/-! ## Listings -/

namespace Listing

variable {kind : Kind} {α : Type}

theorem fetch_through (limit : Option UInt64) (detailed : Bool) :
    Through transport Prod.snd own
      (Listing.fetch transport limit detailed : Remote (Listing kind × σ) (Option Bytes)) := by
  refine .bind .get ?_
  rintro ⟨listing, state⟩
  dsimp only
  split
  · exact .pure _
  · exact .bind (.onSecond (Request.execute_through _ _)) fun response =>
      .bind (.ofExcept (isPlain_pageContent response)) fun _ => .pure _

theorem nextPage_through (limit : Option UInt64) :
    Through transport Prod.snd own
      (Listing.nextPage transport limit : Remote (Listing kind × σ) (List (Handle kind))) := by
  refine .bind .get fun _ => .bind ?_ fun _ => .pure _
  refine .bind (fetch_through limit false) fun content => ?_
  cases content with
  | none => exact .pure _
  | some content => exact .bind (.modify fun _ => rfl) fun _ => .pure _

theorem nextPageDetailed_through (limit : Option UInt64) :
    Through transport Prod.snd own
      (Listing.nextPageDetailed transport limit :
        Remote (Listing kind × σ) (List (Handle kind × Details kind))) := by
  refine .bind .get fun _ => .bind ?_ fun _ => .pure _
  refine .bind (fetch_through limit true) fun content => ?_
  cases content with
  | none => exact .pure _
  | some content =>
      refine .bind .get ?_
      rintro ⟨listing, state⟩
      exact .bind (.ofExcept (isPlain_recordsOf _ _)) fun _ =>
        .bind (.ofExcept (isPlain_detailsFrom _ _)) fun _ =>
          .bind (.modify fun _ => rfl) fun _ => .pure _

variable {page : Remote (Listing kind × σ) (List α)}

theorem collectPages_through (pages : Through transport Prod.snd own page) (rounds : Nat) :
    Through transport Prod.snd own (collectPages page rounds) := by
  induction rounds with
  | zero => exact .pure _
  | succ rounds ih =>
      refine .bind pages fun items => ?_
      split
      · exact .pure _
      · refine .bind ih fun rest => ?_
        cases rest <;> exact .pure _

theorem visitPages_through (pages : Through transport Prod.snd own page)
    {visit : α → Remote σ Unit} (visits : ∀ item, Through transport id own (visit item))
    (rounds : Nat) : Through transport Prod.snd own (visitPages page visit rounds) := by
  have all : ∀ items : List α, Through transport Prod.snd own
      (items.forM fun item => Remote.onSecond (τ := Listing kind) (visit item)) := by
    intro items
    induction items with
    | nil => exact .pure _
    | cons item rest ih => exact .bind (.onSecond (visits item)) fun _ => ih
  induction rounds with
  | zero => exact .pure _
  | succ rounds ih =>
      refine .bind pages fun items => ?_
      split
      · exact .pure _
      · exact .bind (all items) fun _ => ih

end Listing

/-! ## Bulk operations -/

namespace Account

private theorem judging_through {α : Type} (request : Request) (endpoint : Url)
    (made : Bulk.Report → Option Bulk.Failure → α) :
    Through transport id own (do
      let response ← request.execute transport endpoint
      let content ← Remote.ofExcept response.body.read
      let report ← Remote.ofExcept (Bulk.Report.parse content)
      let failure ← Remote.ofExcept (report.failure?.mapError .badResponse)
      return made report failure) :=
  .bind (Request.execute_through _ _) fun response =>
    .bind (.ofExcept response.body.isPlain_read) fun content =>
      .bind (.ofExcept (Bulk.Report.isPlain_parse content)) fun _ =>
        .bind (.ofExcept (.mapError _ nofun)) fun _ => .pure _

theorem deleteBatch_through (site : Site) (options : Options) (batch : List String) :
    Through transport id own (deleteBatch transport site options batch) := by
  unfold deleteBatch
  exact judging_through (deleteRequest options batch) site.endpoint
    fun report failure => (⟨report.deleted, report.notFound, failure⟩ : Bulk.Deletion)

theorem deleteBatches_through (site : Site) (options : Options) (sofar : Bulk.Deletion)
    (batches : List (List String)) :
    Through transport id own (deleteBatches transport site options sofar batches) := by
  induction batches generalizing sofar with
  | nil => exact .pure _
  | cons batch rest ih =>
      refine .bind (deleteBatch_through site options batch) fun deletion => ?_
      dsimp only
      split
      · exact .pure _
      · exact ih _

theorem bulkDelete_through (account : Account) (objects : List Object)
    (containers : List Container) (options : Options) :
    Through transport id own
      (Account.bulkDelete transport account objects containers options) :=
  .bind (.ofExcept (.mapError _ nofun)) fun _ => deleteBatches_through _ _ _ _

theorem bulkUpload_through (account : Account) (path : String) (format : ArchiveFormat)
    (archive : Body) (options : Options) :
    Through transport id own
      (Account.bulkUpload transport account path format archive options) := by
  unfold Account.bulkUpload
  exact judging_through (extractRequest path format archive options) account.site.endpoint
    fun report failure => (⟨report.created, failure⟩ : Bulk.Upload)

end Account

end ObjectStorage
