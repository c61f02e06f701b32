import Mathlib.Data.List.Forall2
import ObjectStorage.Proofs.Address.Parameters
import ObjectStorage.Proofs.Bulk.Lines
import ObjectStorage.Proofs.Execution
import ObjectStorage.Proofs.Headers.Names

/-!
# Bulk deletion

One request is sent for each batch of lines, in order, up to the first answer that is not a report
without failure; the result counts what the reports count.
-/

namespace ObjectStorage.Account

open Bulk

variable {σ : Type}

/-! ## Requests -/

/-- The request that is sent for a batch, whatever the options of the caller say. -/
structure IsDeletion (account : Account) (options : Options) (batch : List String)
    (message : Http.Request) : Prop where
  method : message.method = .post
  target : ∃ located, account.url = .ok located ∧
    Request.target (located.addPairs (options.values.insert "bulk-delete" "true").toList) =
      .ok message.uri
  parameters : ∃ located, account.url = .ok located ∧ message.parameters =
    located.parameters ++ (options.values.insert "bulk-delete" "true").toList
  contentType : message.fields.get? "content-type" = some ⟨Utf8.ofText "text/plain", []⟩
  accept : message.fields.get? "accept" = some ⟨Utf8.ofText "application/json", []⟩
  body : message.body = .bytes (Utf8.ofText (String.join (batch.map (· ++ "\n"))))
  lines : ∀ line ∈ batch, '\n' ∉ line.toList

def Writes (account : Account) (options : Options) (message : Http.Request) : Prop :=
  (deleteRequest options []).written account.site.endpoint = .ok message

def batchMessage (message : Http.Request) (batch : List String) : Http.Request :=
  { message with body := .bytes (deleteContent batch) }

section

variable {account : Account} {options : Options} {message : Http.Request} {batch : List String}

/-- Only the body depends on the batch, so that all batches can be sent or none. -/
theorem written_deleteRequest (options : Options) (batch : List String) (endpoint : Url) :
    (deleteRequest options batch).written endpoint =
      ((deleteRequest options []).written endpoint).map (batchMessage · batch) :=
  Request.written_withBody (deleteRequest options []) (.bytes (deleteContent batch)) endpoint

theorem Writes.exists_url (writes : account.Writes options message) :
    ∃ url, (deleteRequest options []).url account.site.endpoint = .ok url ∧
      (deleteRequest options []).message url = .ok message :=
  ok_of_bind writes

private theorem Writes.exists_located (writes : account.Writes options message) :
    ∃ located, account.url = .ok located ∧
      Request.target (located.addPairs (options.values.insert "bulk-delete" "true").toList) =
        .ok message.uri ∧
      message.parameters =
        located.parameters ++ (options.values.insert "bulk-delete" "true").toList := by
  obtain ⟨url, hurl, hmessage⟩ := writes.exists_url
  obtain ⟨located, hlocated, -, hadded⟩ := Request.url_of_bare hurl
  obtain ⟨other, hother, parameters⟩ := Request.parameters_of_message hurl hmessage
  obtain rfl := Except.ok.inj (hlocated.symm.trans hother)
  have same : account.url = (deleteRequest options []).bare.url account.site.endpoint := by
    obtain ⟨site, ⟨⟩, cached⟩ := account
    apply Request.url_congr <;> rfl
  have added : url = located.addPairs (options.values.insert "bulk-delete" "true").toList := by
    refine hadded.trans (if_neg ?_)
    rw [Bool.not_eq_true]
    exact Dictionary.isEmpty_insert _ _ _
  exact ⟨located, same.trans hlocated, added ▸ Request.target_of_message hmessage, parameters⟩

private theorem Writes.toFields_eq (writes : account.Writes options message) :
    (deleteOptions options).headers.toFields = .ok message.fields := by
  obtain ⟨url, -, hmessage⟩ := writes.exists_url
  exact Request.fields_of_message hmessage

private theorem Writes.batchMessage_isDeletion (writes : account.Writes options message)
    (lines : ∀ line ∈ batch, '\n' ∉ line.toList) :
    IsDeletion account options batch (batchMessage message batch) where
  method := Request.method_of_written writes
  target := by
    obtain ⟨located, hlocated, target, -⟩ := writes.exists_located
    exact ⟨located, hlocated, target⟩
  parameters := by
    obtain ⟨located, hlocated, -, parameters⟩ := writes.exists_located
    exact ⟨located, hlocated, parameters⟩
  contentType := by
    refine Headers.get?_toFields (by decide) (by decide +kernel) ?_ writes.toFields_eq
    rw [deleteOptions, Options.withHeader, Options.withHeader, Headers.get?_set,
      if_neg (by decide +kernel), Headers.get?_set, if_pos (by decide +kernel)]
  accept := by
    refine Headers.get?_toFields (by decide) (by decide +kernel) ?_ writes.toFields_eq
    rw [deleteOptions, Options.withHeader, Headers.get?_set, if_pos (by decide +kernel)]
  body := rfl
  lines := lines

end

/-! ## Answers -/

inductive Answered (exchange : Exchange) : Except Error Deletion → Prop
  | reported {response : Http.Response} {content : Bytes} {report : Report}
      {failure : Option Failure} (answered : exchange.result = .ok response)
      (status : response.status = .ok) (read : response.body.read = .ok content)
      (parsed : Report.parse content = .ok report) (judged : report.failure? = .ok failure) :
      Answered exchange (.ok ⟨report.deleted, report.notFound, failure⟩)
  | unanswered {error : Error} (failed : exchange.result = .error error) :
      Answered exchange (.error error)
  | refused {response : Http.Response} {unexpected : UnexpectedStatus}
      (answered : exchange.result = .ok response) (status : response.status ≠ .ok) :
      Answered exchange (.error (.unexpectedStatus unexpected))
  | unread {response : Http.Response} {error : Error} (answered : exchange.result = .ok response)
      (status : response.status = .ok) (unread : response.body.read = .error error) :
      Answered exchange (.error error)
  | unparsed {response : Http.Response} {content : Bytes} {error : Error}
      (answered : exchange.result = .ok response) (status : response.status = .ok)
      (read : response.body.read = .ok content) (unparsed : Report.parse content = .error error) :
      Answered exchange (.error error)
  | unjudged {response : Http.Response} {content : Bytes} {report : Report} {fault : ResponseFault}
      (answered : exchange.result = .ok response) (status : response.status = .ok)
      (read : response.body.read = .ok content) (parsed : Report.parse content = .ok report)
      (unjudged : report.failure? = .error fault) :
      Answered exchange (.error (.badResponse fault))

/-- The server reports that nothing of the batch failed. -/
def IsClean (exchange : Exchange) : Prop :=
  ∃ response content report, exchange.result = .ok response ∧ response.status = .ok ∧
    response.body.read = .ok content ∧ Report.parse content = .ok report ∧
    report.failure? = .ok none

theorem Answered.isClean_iff {exchange : Exchange} {outcome : Except Error Deletion}
    (answered : Answered exchange outcome) :
    IsClean exchange ↔ ∃ deletion, outcome = .ok deletion ∧ deletion.failure = none := by
  constructor
  · rintro ⟨response, content, report, hresponse, hstatus, hread, hparsed, hjudged⟩
    cases answered with
    | reported answered status read parsed judged =>
        cases hresponse.symm.trans answered
        cases hread.symm.trans read
        cases hparsed.symm.trans parsed
        cases hjudged.symm.trans judged
        exact ⟨_, rfl, rfl⟩
    | unanswered failed => exact nomatch hresponse.symm.trans failed
    | refused answered status =>
        cases hresponse.symm.trans answered
        exact absurd hstatus status
    | unread answered status unread =>
        cases hresponse.symm.trans answered
        exact nomatch hread.symm.trans unread
    | unparsed answered status read unparsed =>
        cases hresponse.symm.trans answered
        cases hread.symm.trans read
        exact nomatch hparsed.symm.trans unparsed
    | unjudged answered status read parsed unjudged =>
        cases hresponse.symm.trans answered
        cases hread.symm.trans read
        cases hparsed.symm.trans parsed
        exact nomatch hjudged.symm.trans unjudged
  · rintro ⟨deletion, rfl, clean⟩
    cases answered with
    | reported answered status read parsed judged =>
        dsimp only at clean
        rw [clean] at judged
        exact ⟨_, _, _, answered, status, read, parsed, judged⟩

/-! ## One batch -/

section

variable (transport : Transport σ) (account : Account) (options : Options)
  (events : List Observation)

private theorem attempt_unwritten {error : Error} (batch : List String) (state : σ)
    (unwritten : (deleteRequest options []).written account.site.endpoint = .error error) :
    (deleteBatch transport account.site options batch).attempt state = (.error error, state) := by
  have unwritten : (deleteRequest options batch).written account.site.endpoint = .error error := by
    rw [written_deleteRequest, unwritten]
    rfl
  rw [deleteBatch, Remote.attempt_bind,
    Remote.attempt_of_error (Request.execute_of_unwritten unwritten)]

theorem deleteBatch_answered {message : Http.Request} (writes : account.Writes options message)
    (batch : List String) (state : σ) :
    ∃ outcome new last exchange,
      (deleteBatch transport.observed account.site options batch).attempt (events, state) =
        (outcome, (events ++ new, last)) ∧
      Observation.sends new = [(batchMessage message batch, exchange)] ∧
      Answered exchange outcome := by
  have written : (deleteRequest options batch).written account.site.endpoint =
      .ok (batchMessage message batch) := by
    rw [written_deleteRequest, writes]
    rfl
  obtain ⟨result, new, last, run, executed⟩ := Request.execute_executed transport
    (deleteRequest options batch) account.site.endpoint events state
  rw [deleteBatch, Remote.attempt_bind, run]
  generalize hsends : Observation.sends new = sends at executed
  cases executed with
  | unwritten unwritten => exact nomatch written.symm.trans unwritten
  | unanswered other =>
      cases written.symm.trans other
      exact ⟨_, new, last, _, rfl, hsends, .unanswered rfl⟩
  | refused other refusal =>
      cases written.symm.trans other
      cases refusal with
      | unexpected status =>
          refine ⟨_, new, last, _, rfl, hsends, .refused rfl ?_⟩
          simpa [Request.isExpected, deleteRequest] using status
      | undrained drains => exact nomatch drains
  | @accepted _ response pulled other accepts =>
      cases written.symm.trans other
      have status : response.status = .ok := by
        simpa [Request.isExpected, deleteRequest] using accepts.expected
      have taken : (deleteRequest options batch).taken response = response := rfl
      dsimp only
      rw [taken, Remote.attempt_bind, Remote.attempt_ofExcept]
      cases read : response.body.read with
      | error error => exact ⟨_, new, last, _, rfl, hsends, .unread rfl status read⟩
      | ok content =>
          dsimp only
          rw [Remote.attempt_bind, Remote.attempt_ofExcept]
          cases parsed : Report.parse content with
          | error error => exact ⟨_, new, last, _, rfl, hsends, .unparsed rfl status read parsed⟩
          | ok report =>
              dsimp only
              rw [Remote.attempt_bind, Remote.attempt_ofExcept]
              cases judged : report.failure? with
              | error fault =>
                  exact ⟨_, new, last, _, rfl, hsends, .unjudged rfl status read parsed judged⟩
              | ok failure =>
                  exact ⟨_, new, last, _, rfl, hsends, .reported rfl status read parsed judged⟩

end

/-! ## All batches -/

/-- What is sent for the batches and how it is answered, up to the first answer that ends it. -/
inductive Deleting (message : Http.Request) :
    List (List String) → List (Http.Request × Exchange) → List (Except Error Deletion) → Prop
  | done : Deleting message [] [] []
  | stopped {batch : List String} {rest : List (List String)} {exchange : Exchange}
      {outcome : Except Error Deletion} (answered : Answered exchange outcome)
      (ends : ¬IsClean exchange) :
      Deleting message (batch :: rest) [(batchMessage message batch, exchange)] [outcome]
  | next {batch : List String} {rest : List (List String)} {exchange : Exchange}
      {outcome : Except Error Deletion} {sends : List (Http.Request × Exchange)}
      {outcomes : List (Except Error Deletion)} (answered : Answered exchange outcome)
      (clean : IsClean exchange) (others : Deleting message rest sends outcomes) :
      Deleting message (batch :: rest) ((batchMessage message batch, exchange) :: sends)
        (outcome :: outcomes)

def Deletion.add (sofar deletion : Deletion) : Deletion :=
  ⟨sofar.deleted + deletion.deleted, sofar.notFound + deletion.notFound, deletion.failure⟩

def summary (sofar : Deletion) (outcomes : List (Except Error Deletion)) : Except Error Deletion :=
  outcomes.foldlM (fun sofar outcome => outcome.map (Deletion.add sofar)) sofar

theorem summary_cons_ok (sofar deletion : Deletion) (outcomes : List (Except Error Deletion)) :
    summary sofar (.ok deletion :: outcomes) = summary (Deletion.add sofar deletion) outcomes := rfl

def total (counts : List UInt64) : UInt64 := counts.foldr (· + ·) 0

private theorem add_total_cons (sofar first : UInt64) (rest : List UInt64) :
    sofar + total (first :: rest) = sofar + first + total rest := by
  rw [UInt64.add_assoc]
  rfl

private theorem summary_reported (sofar : Deletion) (deletions : List Deletion) :
    summary sofar (deletions.map .ok) =
      .ok ⟨sofar.deleted + total (deletions.map Deletion.deleted),
        sofar.notFound + total (deletions.map Deletion.notFound),
        (deletions.getLast?).elim sofar.failure Deletion.failure⟩ := by
  induction deletions generalizing sofar with
  | nil => simp [summary, total, pure, Except.pure]
  | cons first rest ih =>
      rw [List.map_cons, summary_cons_ok, ih, List.map_cons, List.map_cons, add_total_cons,
        add_total_cons, List.getLast?_cons]
      cases rest.getLast? <;> rfl

private theorem summary_broken (sofar : Deletion) (deletions : List Deletion) (error : Error) :
    summary sofar (deletions.map .ok ++ [.error error]) = .error error := by
  induction deletions generalizing sofar with
  | nil => rfl
  | cons first rest ih =>
      rw [List.map_cons, List.cons_append, summary_cons_ok]
      exact ih _

theorem deleteBatches_deleting (transport : Transport σ) (account : Account) (options : Options)
    {message : Http.Request} (writes : account.Writes options message) (sofar : Deletion)
    (batches : List (List String)) (events : List Observation) (state : σ) :
    ∃ new last outcomes,
      (deleteBatches transport.observed account.site options sofar batches).attempt
          (events, state) = (summary sofar outcomes, (events ++ new, last)) ∧
      Deleting message batches (Observation.sends new) outcomes := by
  -- What is counted and what is observed so far is carried from one batch to the next.
  induction batches generalizing sofar events state with
  | nil =>
      refine ⟨[], state, [], ?_, .done⟩
      rw [List.append_nil]
      rfl
  | cons batch rest ih =>
      obtain ⟨outcome, new, last, exchange, run, sends, answered⟩ :=
        deleteBatch_answered transport account options events writes batch state
      rw [deleteBatches, Remote.attempt_bind, run]
      cases outcome with
      | error error =>
          refine ⟨new, last, [.error error], rfl, ?_⟩
          rw [sends]
          refine .stopped answered fun clean => ?_
          obtain ⟨deletion, failed, -⟩ := answered.isClean_iff.mp clean
          exact nomatch failed
      | ok deletion =>
          dsimp only
          cases failure : deletion.failure with
          | some failure =>
              refine ⟨new, last, [.ok deletion], ?_, ?_⟩
              · rw [summary_cons_ok, Deletion.add, failure]
                rfl
              · rw [sends]
                refine .stopped answered fun clean => ?_
                obtain ⟨_, ⟨⟩, none⟩ := answered.isClean_iff.mp clean
                exact nomatch failure.symm.trans none
          | none =>
              obtain ⟨others, final, outcomes, after, goesOn⟩ :=
                ih (Deletion.add sofar deletion) (events ++ new) last
              refine ⟨new ++ others, final, .ok deletion :: outcomes, ?_, ?_⟩
              · rw [summary_cons_ok, ← List.append_assoc, ← after, Deletion.add, failure]
                rfl
              · have both : Observation.sends (new ++ others) =
                    Observation.sends new ++ Observation.sends others := List.filterMap_append
                rw [both, sends]
                exact .next answered (answered.isClean_iff.mpr ⟨deletion, rfl, failure⟩) goesOn

namespace Deleting

variable {message : Http.Request} {batches : List (List String)}
  {sends : List (Http.Request × Exchange)} {outcomes : List (Except Error Deletion)}

theorem forall₂_batches (deleting : Deleting message batches sends outcomes)
    {P : List String → Prop} (each : ∀ batch ∈ batches, P batch) :
    List.Forall₂ (fun send batch => send.1 = batchMessage message batch ∧ P batch) sends
      (batches.take sends.length) := by
  induction deleting with
  | done => exact .nil
  | stopped => exact .cons ⟨rfl, each _ List.mem_cons_self⟩ .nil
  | next answered clean others ih =>
      exact .cons ⟨rfl, each _ List.mem_cons_self⟩
        (ih fun batch hbatch => each batch (List.mem_cons_of_mem _ hbatch))

theorem forall₂_outcomes (deleting : Deleting message batches sends outcomes) :
    List.Forall₂ (fun send outcome => Answered send.2 outcome) sends outcomes := by
  induction deleting with
  | done => exact .nil
  | stopped answered => exact .cons answered .nil
  | next answered clean others ih => exact .cons answered ih

theorem eq_nil_iff (deleting : Deleting message batches sends outcomes) :
    sends = [] ↔ batches = [] := by
  cases deleting <;> simp

theorem after_ne_nil_iff (deleting : Deleting message batches sends outcomes)
    {before after : List (Http.Request × Exchange)} {send : Http.Request × Exchange}
    (h : sends = before ++ send :: after) :
    after ≠ [] ↔ IsClean send.2 ∧ before.length + 1 < batches.length := by
  induction deleting generalizing before with
  | done => simp at h
  | stopped answered ends =>
      cases before with
      | nil =>
          obtain ⟨rfl, rfl⟩ := List.cons.inj h
          simp [ends]
      | cons first before => simp at h
  | next answered clean others ih =>
      cases before with
      | nil =>
          obtain ⟨rfl, rfl⟩ := List.cons.inj h
          have := others.eq_nil_iff
          simp [clean, this, List.length_pos_iff]
      | cons first before =>
          obtain ⟨-, rest⟩ := List.cons.inj h
          simpa using ih rest

private theorem outcomes_cases (deleting : Deleting message batches sends outcomes) :
    (∃ deletions : List Deletion, outcomes = deletions.map .ok) ∨
      ∃ (deletions : List Deletion) (error : Error),
        outcomes = deletions.map .ok ++ [.error error] := by
  induction deleting with
  | done => exact .inl ⟨[], rfl⟩
  | @stopped batch rest exchange outcome answered ends =>
      cases outcome with
      | ok deletion => exact .inl ⟨[deletion], rfl⟩
      | error error => exact .inr ⟨[], error, rfl⟩
  | next answered clean others ih =>
      obtain ⟨deletion, rfl, -⟩ := answered.isClean_iff.mp clean
      rcases ih with ⟨deletions, rfl⟩ | ⟨deletions, error, rfl⟩
      · exact .inl ⟨deletion :: deletions, rfl⟩
      · exact .inr ⟨deletion :: deletions, error, rfl⟩

end Deleting

/-! ## What a bulk deletion does -/

def allDoomed (objects : List Object) (containers : List Container) : List Doomed :=
  objects.map Doomed.ofObject ++ containers.map Doomed.ofContainer

theorem attempt_bulkDelete (transport : Transport σ) (account : Account) (objects : List Object)
    (containers : List Container) (options : Options) (state : σ) :
    (bulkDelete transport account objects containers options).attempt state =
      match paths account.site.account (allDoomed objects containers) with
      | .error fault => (.error (.invalidRequest fault), state)
      | .ok lines => (deleteBatches transport account.site options ⟨0, 0, none⟩
          (batches account.site.settings.bulkDeleteBatchSize.toNat lines)).attempt state := by
  unfold bulkDelete
  dsimp only
  rw [Remote.attempt_bind, Remote.attempt_ofExcept]
  unfold allDoomed
  cases paths account.site.account
    (objects.map Doomed.ofObject ++ containers.map Doomed.ofContainer) <;> rfl

def batchSize (account : Account) : Nat := max 1 account.site.settings.bulkDeleteBatchSize.toNat

/-- What was sent in which lines, how it was answered, and what came of it. -/
structure Deleted (account : Account) (options : Options) (all : List Doomed)
    (sends : List (Http.Request × Exchange)) (lines : List (List String))
    (outcomes : List (Except Error Deletion)) (result : Except Error Deletion) : Prop where
  requests : List.Forall₂ (fun send batch => IsDeletion account options batch send.1) sends lines
  answers : List.Forall₂ (fun send outcome => Answered send.2 outcome) sends outcomes
  sizes : ∀ batch ∈ lines, 1 ≤ batch.length ∧ batch.length ≤ account.batchSize
  full : ∀ batch ∈ lines.dropLast, batch.length = account.batchSize
  inOrder : lines.flatten = (all.take (lines.length * account.batchSize)).map Doomed.line
  decoded : lines.flatten.map Percent.decode? =
    (all.take (lines.length * account.batchSize)).map fun doomed => some doomed.name
  started : sends = [] ↔ all = []
  goesOn : ∀ before send after, sends = before ++ send :: after →
    (after ≠ [] ↔ IsClean send.2 ∧ (before.length + 1) * account.batchSize < all.length)
  ends : (∃ deletions : List Deletion, outcomes = deletions.map .ok ∧
      result = .ok ⟨total (deletions.map Deletion.deleted),
        total (deletions.map Deletion.notFound), deletions.getLast?.bind Deletion.failure⟩) ∨
    ∃ (deletions : List Deletion) (error : Error),
      outcomes = deletions.map .ok ++ [.error error] ∧ result = .error error

private theorem not_mem_of_mem_batches {size : Nat} {all : List Doomed} {batch : List String}
    (h : batch ∈ batches size (all.map Doomed.line)) : ∀ line ∈ batch, '\n' ∉ line.toList := by
  intro line hline
  have among : line ∈ (batches size (all.map Doomed.line)).flatten :=
    List.mem_flatten.mpr ⟨batch, h, hline⟩
  rw [flatten_batches] at among
  obtain ⟨doomed, -, rfl⟩ := List.mem_map.mp among
  exact not_mem_line doomed

private theorem Deleting.flatten_eq_map_line {size : Nat} {message : Http.Request}
    {all : List Doomed}
    {sends : List (Http.Request × Exchange)} {outcomes : List (Except Error Deletion)}
    (deleting : Deleting message (batches size (all.map Doomed.line)) sends outcomes) :
    ((batches size (all.map Doomed.line)).take sends.length).flatten =
      (all.take (((batches size (all.map Doomed.line)).take sends.length).length *
        max 1 size)).map Doomed.line := by
  have count := (deleting.forall₂_batches fun _ _ => trivial).length_eq
  rw [flatten_take_batches, ← count, List.map_take]

theorem Deleting.deleted_of_writes {account : Account} {options : Options} {message : Http.Request}
    {all : List Doomed} {sends : List (Http.Request × Exchange)}
    {outcomes : List (Except Error Deletion)} (writes : account.Writes options message)
    (deleting : Deleting message (batches account.site.settings.bulkDeleteBatchSize.toNat
      (all.map Doomed.line)) sends outcomes) :
    Deleted account options all sends
      ((batches account.site.settings.bulkDeleteBatchSize.toNat (all.map Doomed.line)).take
        sends.length)
      outcomes (summary ⟨0, 0, none⟩ outcomes) where
  requests := by
    refine (deleting.forall₂_batches fun batch h => not_mem_of_mem_batches h).imp ?_
    rintro ⟨_, exchange⟩ batch ⟨rfl, lines⟩
    exact writes.batchMessage_isDeletion lines
  answers := deleting.forall₂_outcomes
  sizes batch hbatch := length_of_mem_batches _ _ batch (List.mem_of_mem_take hbatch)
  full batch hbatch := by
    refine length_of_mem_dropLast _ (all.map Doomed.line) batch ?_
    rw [List.dropLast_eq_take, List.take_take, List.length_take] at hbatch
    rw [List.dropLast_eq_take]
    exact List.take_subset_take_left _ (by omega) hbatch
  inOrder := deleting.flatten_eq_map_line
  decoded := by
    rw [deleting.flatten_eq_map_line, List.map_map]
    refine List.map_congr_left fun doomed _ => ?_
    rw [Function.comp_apply, decode?_line]
  started := by
    rw [deleting.eq_nil_iff]
    cases all <;> simp [batches]
  goesOn before send after h := by
    rw [deleting.after_ne_nil_iff h, lt_length_batches, List.length_map]
    rfl
  ends := by
    rcases deleting.outcomes_cases with ⟨deletions, rfl⟩ | ⟨deletions, error, rfl⟩
    · refine .inl ⟨deletions, rfl, ?_⟩
      rw [summary_reported, UInt64.zero_add, UInt64.zero_add]
      cases deletions.getLast? <;> rfl
    · exact .inr ⟨deletions, error, rfl, summary_broken _ deletions error⟩

private theorem deleted_nothing (account : Account) (options : Options) :
    Deleted account options [] [] [] [] (.ok ⟨0, 0, none⟩) where
  requests := .nil
  answers := .nil
  sizes _ h := nomatch h
  full _ h := nomatch h
  inOrder := by simp
  decoded := by simp
  started := by simp
  goesOn before send after h := by simp at h
  ends := .inl ⟨[], rfl, rfl⟩

theorem bulkDelete_cases (transport : Transport σ) (account : Account) (objects : List Object)
    (containers : List Container) (options : Options) (events : List Observation) (state : σ) :
    ∃ result new last,
      (bulkDelete transport.observed account objects containers options).attempt (events, state) =
        (result, (events ++ new, last)) ∧
      ((∃ fault, paths account.site.account (allDoomed objects containers) = .error fault ∧
          result = .error (.invalidRequest fault) ∧ Observation.sends new = []) ∨
        (∀ doomed ∈ allDoomed objects containers, doomed.IsOf account.site.account) ∧
        ((∃ error, (deleteRequest options []).written account.site.endpoint = .error error ∧
            allDoomed objects containers ≠ [] ∧ result = .error error ∧
            Observation.sends new = []) ∨
          ∃ lines outcomes, Deleted account options (allDoomed objects containers)
            (Observation.sends new) lines outcomes result)) := by
  rw [attempt_bulkDelete]
  cases hpaths : paths account.site.account (allDoomed objects containers) with
  | error fault =>
      refine ⟨_, [], state, ?_, .inl ⟨fault, rfl, rfl, rfl⟩⟩
      rw [List.append_nil]
  | ok lines =>
      obtain ⟨proper, rfl⟩ := isOf_of_paths hpaths
      dsimp only
      cases written : (deleteRequest options []).written account.site.endpoint with
      | error error =>
          cases all : allDoomed objects containers with
          | nil =>
              refine ⟨.ok ⟨0, 0, none⟩, [], state, ?_, .inr ⟨all ▸ proper, .inr
                ⟨[], [], deleted_nothing account options⟩⟩⟩
              rw [List.append_nil, List.map_nil, batches]
              rfl
          | cons first rest =>
              refine ⟨.error error, [], state, ?_, .inr ⟨all ▸ proper, .inl
                ⟨error, rfl, List.cons_ne_nil first rest, rfl, rfl⟩⟩⟩
              rw [List.append_nil, List.map_cons, batches_cons, deleteBatches, Remote.attempt_bind,
                attempt_unwritten transport.observed account options _ _ written]
      | ok message =>
          obtain ⟨new, last, outcomes, run, deleting⟩ :=
            deleteBatches_deleting transport account options written ⟨0, 0, none⟩ _ events state
          exact ⟨_, new, last, run, .inr ⟨proper, .inr ⟨_, outcomes,
            deleting.deleted_of_writes written⟩⟩⟩

/--
Whatever the server answers: if the request can be written, all lines are sent once, in order and in
batches, up to the batch whose answer is no report without failure; else nothing is sent.
-/
theorem bulk_deletion (transport : Transport σ) {account : Account} {objects : List Object}
    {containers : List Container}
    (proper : ∀ doomed ∈ allDoomed objects containers, doomed.IsOf account.site.account)
    (options : Options) (events : List Observation) (state : σ) :
    ∃ result new last,
      (bulkDelete transport.observed account objects containers options).attempt (events, state) =
        (result, (events ++ new, last)) ∧
      ((∃ error, (deleteRequest options []).written account.site.endpoint = .error error ∧
          ((∃ fault, error = .invalidRequest fault) ∨ ∃ name fault, error = .badHeader name fault) ∧
          allDoomed objects containers ≠ [] ∧ result = .error error ∧
          Observation.sends new = []) ∨
        ∃ lines outcomes, Deleted account options (allDoomed objects containers)
          (Observation.sends new) lines outcomes result) := by
  obtain ⟨result, new, last, run, cases⟩ :=
    bulkDelete_cases transport account objects containers options events state
  refine ⟨result, new, last, run, ?_⟩
  rcases cases with ⟨fault, refused, -⟩ | ⟨-, ⟨error, unwritten, some, failed, nothing⟩ | deleted⟩
  · exact nomatch (paths_of_isOf proper).symm.trans refused
  · exact .inl ⟨error, unwritten, Request.error_of_unwritten unwritten, some, failed, nothing⟩
  · exact .inr deleted

def deletingServer : Transport Unit where
  send _ := fun state =>
    (⟨.ok ⟨.ok, .none, .bytes (Utf8.ofText "\x7b\"Number Deleted\": 1\x7d")⟩, 0⟩, state)

def smallAccount : Account :=
  Handle.fresh ⟨⟨"http", "", "", some "swift.test", none, .segments ["v1", "AUTH_test"], none, none,
    false⟩, "AUTH_test", ⟨1, 16⟩⟩ .account

def leaf : Object := Handle.fresh smallAccount.site (.object "c" "o")

theorem bulk_deletion_leaf :
    (∀ doomed ∈ allDoomed [leaf] [leaf.container], doomed.IsOf smallAccount.site.account) ∧
      ∃ new last lines outcomes,
        (bulkDelete deletingServer.observed smallAccount [leaf] [leaf.container] .none).attempt
            ([], ()) = (.ok ⟨2, 0, none⟩, (new, last)) ∧
          Deleted smallAccount .none (allDoomed [leaf] [leaf.container]) (Observation.sends new)
            lines outcomes (.ok ⟨2, 0, none⟩) := by
  have proper : ∀ doomed ∈ allDoomed [leaf] [leaf.container],
      doomed.IsOf smallAccount.site.account := by
    intro doomed h
    rcases List.mem_cons.mp h with rfl | h
    · exact ⟨rfl, by decide⟩
    · obtain rfl := List.mem_singleton.mp h
      exact ⟨rfl, by decide⟩
  have value : ((bulkDelete deletingServer.observed smallAccount [leaf] [leaf.container]
      .none).attempt ([], ())).1 = .ok ⟨2, 0, none⟩ := by
    decide +kernel
  obtain ⟨result, new, last, run, cases⟩ := bulk_deletion deletingServer proper .none [] ()
  rw [run] at value
  obtain rfl : result = .ok ⟨2, 0, none⟩ := value
  rcases cases with ⟨error, -, -, -, failed, -⟩ | ⟨lines, outcomes, deleted⟩
  · exact nomatch failed
  · exact ⟨proper, new, last, lines, outcomes, run, deleted⟩

/-- With a header that cannot be sent, the first batch is not sent either. -/
theorem not_deleted_with_bad_header :
    ¬∀ options : Options, ∃ lines outcomes,
      Deleted smallAccount options (allDoomed [leaf] [])
        (Observation.sends ((bulkDelete deletingServer.observed smallAccount [leaf] []
          options).attempt ([], ())).2.1)
        lines outcomes
        ((bulkDelete deletingServer.observed smallAccount [leaf] [] options).attempt ([], ())).1 := by
  intro deleted
  have nothing : (Observation.sends ((bulkDelete deletingServer.observed smallAccount [leaf] []
      (Options.none.withHeader "bad name" "x")).attempt ([], ())).2.1).length = 0 := by
    decide +kernel
  obtain ⟨lines, outcomes, deleted⟩ := deleted (Options.none.withHeader "bad name" "x")
  exact nomatch deleted.started.mp (List.length_eq_zero_iff.mp nothing)

end ObjectStorage.Account
