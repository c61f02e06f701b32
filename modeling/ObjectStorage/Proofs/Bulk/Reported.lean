import ObjectStorage.Bulk.Upload
import ObjectStorage.Proofs.Bulk.Deletion
import ObjectStorage.Proofs.Bulk.Judgement

/-!
# Failures are reported

Whatever the server answers, a bulk operation counts as done only if every answer was a report of
success.  A report that ends it with a failure is the last one, and its counts are among those that
are returned beside the failure.
-/

namespace ObjectStorage.Account

open Bulk

variable {σ : Type}

/-- The answer is this report. -/
def Brings (exchange : Exchange) (report : Report) : Prop :=
  ∃ response content, exchange.result = .ok response ∧ response.body.read = .ok content ∧
    Report.parse content = .ok report

/-- The last report failed and the others did not, and the failure tells what it says. -/
structure EndsWith (reports before : List Report) (report : Report) (failure : Failure) :
    Prop where
  shape : reports = before ++ [report]
  succeeded : ∀ earlier ∈ before, earlier.IsSuccess
  failed : ¬report.IsSuccess
  tells : report.Tells failure

/-- Which failure reports come to that are read up to the first that fails. -/
inductive Ending (reports : List Report) : Option Failure → Prop
  | done (succeeded : ∀ report ∈ reports, report.IsSuccess) : Ending reports none
  | failed {before : List Report} {report : Report} {failure : Failure}
      (ends : EndsWith reports before report failure) : Ending reports (some failure)

namespace Ending

variable {reports : List Report} {report : Report} {failure : Option Failure}

theorem of_singleton (h : report.failure? = .ok failure) : Ending [report] failure := by
  have judged := report.failure?_judged
  rw [h] at judged
  cases judged with
  | success success => exact .done (List.forall_mem_singleton.mpr success)
  | failure fails tells => exact .failed ⟨List.nil_append [report] |>.symm, nofun, fails, tells⟩

theorem cons (success : report.IsSuccess) (ending : Ending reports failure) :
    Ending (report :: reports) failure := by
  cases ending with
  | done succeeded => exact .done (List.forall_mem_cons.mpr ⟨success, succeeded⟩)
  | failed ends =>
      refine .failed ⟨?_, List.forall_mem_cons.mpr ⟨success, ends.succeeded⟩, ends.failed,
        ends.tells⟩
      rw [ends.shape, List.cons_append]

theorem eq_none_iff (ending : Ending reports failure) :
    failure = none ↔ ∀ report ∈ reports, report.IsSuccess := by
  cases ending with
  | done succeeded => exact iff_of_true rfl succeeded
  | failed ends =>
      refine iff_of_false nofun fun succeeded => ends.failed (succeeded _ ?_)
      rw [ends.shape]
      exact List.mem_concat_self

end Ending

/-! ## Deletions -/

private theorem total_concat (counts : List UInt64) (last : UInt64) :
    total (counts ++ [last]) = total counts + last := by
  induction counts with
  | nil => simp [total]
  | cons first rest ih =>
      change first + total (rest ++ [last]) = first + total rest + last
      rw [ih, UInt64.add_assoc]

private theorem isSuccess_of_isClean {exchange : Exchange} {report : Report}
    (clean : IsClean exchange) (brings : Brings exchange report) : report.IsSuccess := by
  obtain ⟨response, content, other, answered, -, read, parsed, judged⟩ := clean
  obtain ⟨response', content', answered', read', parsed'⟩ := brings
  cases answered.symm.trans answered'
  cases read.symm.trans read'
  cases parsed.symm.trans parsed'
  exact (Ending.of_singleton judged).eq_none_iff.mp rfl report List.mem_cons_self

theorem exists_reports {sends : List (Http.Request × Exchange)} {deletions : List Deletion}
    (answers : List.Forall₂ (fun send outcome => Answered send.2 outcome) sends
      (deletions.map .ok))
    (clean : ∀ send ∈ sends.dropLast, IsClean send.2) :
    ∃ reports, List.Forall₂ (fun send report => Brings send.2 report) sends reports ∧
      deletions.map Deletion.deleted = reports.map Report.deleted ∧
      deletions.map Deletion.notFound = reports.map Report.notFound ∧
      Ending reports (deletions.getLast?.bind Deletion.failure) := by
  induction deletions generalizing sends with
  | nil =>
      cases answers
      exact ⟨[], .nil, rfl, rfl, .done nofun⟩
  | cons deletion rest ih =>
      cases answers with
      | @cons send _ others _ answered further =>
          generalize houtcome : Except.ok deletion = outcome at answered
          cases answered with
          | @reported response content report failure result status read parsed judged =>
              cases houtcome
              have brings : Brings send.2 report := ⟨response, content, result, read, parsed⟩
              cases rest with
              | nil =>
                  cases further
                  exact ⟨[report], .cons brings .nil, rfl, rfl, .of_singleton judged⟩
              | cons second rest =>
                  obtain ⟨next, others, rfl⟩ : ∃ next later, others = next :: later := by
                    cases further
                    exact ⟨_, _, rfl⟩
                  rw [List.dropLast_cons_cons] at clean
                  obtain ⟨first, clean⟩ := List.forall_mem_cons.mp clean
                  obtain ⟨reports, all, deleted, notFound, ending⟩ := ih further clean
                  refine ⟨report :: reports, .cons brings all, ?_, ?_, ?_⟩
                  · exact congrArg (report.deleted :: ·) deleted
                  · exact congrArg (report.notFound :: ·) notFound
                  · rw [List.getLast?_cons_cons]
                    exact ending.cons (isSuccess_of_isClean first brings)
          | _ => exact nomatch houtcome

/-- What a deletion returns, by the reports that came for it. -/
structure Tallied (reports : List Report) (deletion : Deletion) : Prop where
  deleted : deletion.deleted = total (reports.map Report.deleted)
  notFound : deletion.notFound = total (reports.map Report.notFound)
  done : (∃ counts, deletion.toExcept = .ok counts) ↔ ∀ report ∈ reports, report.IsSuccess
  failed : ∀ failure, deletion.failure = some failure →
    ∃ before report, EndsWith reports before report failure ∧
      deletion.deleted = total (before.map Report.deleted) + report.deleted ∧
      deletion.notFound = total (before.map Report.notFound) + report.notFound

private theorem tallied_of_ending {reports : List Report} {deletion : Deletion}
    (deleted : deletion.deleted = total (reports.map Report.deleted))
    (notFound : deletion.notFound = total (reports.map Report.notFound))
    (ending : Ending reports deletion.failure) : Tallied reports deletion := by
  refine ⟨deleted, notFound, ?_, ?_⟩
  · rw [← ending.eq_none_iff, Deletion.toExcept]
    cases deletion.failure <;> simp
  · intro failure h
    rw [h] at ending
    cases ending with
    | @failed before report _ ends =>
        refine ⟨before, report, ends, ?_, ?_⟩
        · rw [deleted, ends.shape, List.map_append, List.map_singleton, total_concat]
        · rw [notFound, ends.shape, List.map_append, List.map_singleton, total_concat]

private theorem Deleted.isClean_of_mem {account : Account} {options : Options} {all : List Doomed}
    {sends : List (Http.Request × Exchange)} {lines : List (List String)}
    {outcomes : List (Except Error Deletion)} {result : Except Error Deletion}
    (deleted : Deleted account options all sends lines outcomes result) :
    ∀ send ∈ sends.dropLast, IsClean send.2 := by
  intro send h
  obtain ⟨before, after, shape⟩ := List.append_of_mem h
  have some : sends ≠ [] := by
    rintro rfl
    exact nomatch h
  have whole : sends = before ++ send :: (after ++ [sends.getLast some]) := by
    rw [← List.cons_append, ← List.append_assoc, ← shape, List.dropLast_append_getLast]
  exact ((deleted.goesOn before send _ whole).mp (by simp)).1

theorem Deleted.exists_tallied {account : Account} {options : Options} {all : List Doomed}
    {sends : List (Http.Request × Exchange)} {lines : List (List String)}
    {outcomes : List (Except Error Deletion)} {deletion : Deletion}
    (deleted : Deleted account options all sends lines outcomes (.ok deletion)) :
    ∃ reports, List.Forall₂ (fun send report => Brings send.2 report) sends reports ∧
      Tallied reports deletion := by
  rcases deleted.ends with ⟨deletions, rfl, result⟩ | ⟨deletions, error, -, result⟩
  · obtain ⟨reports, brings, counted, missing, ending⟩ :=
      exists_reports deleted.answers deleted.isClean_of_mem
    cases result
    refine ⟨reports, brings, tallied_of_ending ?_ ?_ ending⟩
    · rw [counted]
    · rw [missing]
  · exact nomatch result

/-! ## Uploads -/

/-- What an upload returns, by the report that came for it. -/
structure Extracted (report : Report) (upload : Upload) : Prop where
  created : upload.created = report.created
  done : (∃ count, upload.toExcept = .ok count) ↔ report.IsSuccess
  failed : ∀ failure, upload.failure = some failure → report.Tells failure

private theorem extracted_of_failure? {report : Report} {failure : Option Failure}
    (h : report.failure? = .ok failure) : Extracted report ⟨report.created, failure⟩ := by
  have judged := report.failure?_judged
  rw [h] at judged
  refine ⟨rfl, ?_, ?_⟩
  · cases judged with
    | success success => exact iff_of_true ⟨report.created, rfl⟩ success
    | failure fails tells => exact iff_of_false nofun fails
  · rintro failure rfl
    cases judged with
    | failure fails tells => exact tells

def uploadOf (response : Http.Response) : Except Error Upload := do
  let content ← response.body.read
  let report ← Report.parse content
  let failure ← report.failure?.mapError .badResponse
  return ⟨report.created, failure⟩

theorem attempt_bulkUpload (transport : Transport σ) (account : Account) (path : String)
    (format : ArchiveFormat) (archive : Body) (options : Options) (state : σ) :
    (bulkUpload transport account path format archive options).attempt state =
      match ((extractRequest path format archive options).execute transport
        account.site.endpoint).attempt state with
      | (.ok response, next) => (uploadOf response, next)
      | (.error error, next) => (.error error, next) := by
  have parts : bulkUpload transport account path format archive options =
      (extractRequest path format archive options).execute transport account.site.endpoint >>=
        fun response => Remote.ofExcept (uploadOf response) := by
    simp only [bulkUpload, uploadOf, Remote.ofExcept_bind]
    rfl
  rw [parts, Remote.attempt_bind]
  rcases ((extractRequest path format archive options).execute transport
    account.site.endpoint).attempt state with ⟨error | response, next⟩
  · rfl
  · exact Remote.attempt_ofExcept (uploadOf response)

theorem bulkUpload_extracts (transport : Transport σ) (account : Account) (path : String)
    (format : ArchiveFormat) (archive : Body) (options : Options) (events : List Observation)
    (state : σ) :
    ∃ result new last,
      (bulkUpload transport.observed account path format archive options).attempt
          (events, state) = (result, (events ++ new, last)) ∧
      ∀ upload, result = .ok upload → ∃ message exchange report,
        Observation.sends new = [(message, exchange)] ∧ Brings exchange report ∧
          Extracted report upload := by
  obtain ⟨result, new, last, run, executed⟩ := Request.execute_executed transport
    (extractRequest path format archive options) account.site.endpoint events state
  rw [attempt_bulkUpload, run]
  generalize hsends : Observation.sends new = sends at executed
  cases executed with
  | unwritten | unanswered | refused => exact ⟨_, new, last, rfl, nofun⟩
  | @accepted message response pulled written accepts =>
      have taken : (extractRequest path format archive options).taken response = response := rfl
      refine ⟨_, new, last, rfl, fun upload h => ?_⟩
      rw [taken] at h
      obtain ⟨content, read, h⟩ := ok_of_bind h
      obtain ⟨report, parsed, h⟩ := ok_of_bind h
      obtain ⟨failure, judged, h⟩ := ok_of_bind h
      cases h
      refine ⟨message, _, report, hsends, ⟨response, content, rfl, read, parsed⟩,
        extracted_of_failure? ?_⟩
      cases unjudged : report.failure? with
      | error fault =>
          rw [unjudged] at judged
          exact nomatch judged
      | ok other =>
          rw [unjudged] at judged
          cases judged
          rfl

/-! ## Bulk operations -/

/--
A report that is accepted is judged by all that it says, and a bulk operation that returns is done
exactly if all the reports that came for it are successes.
-/
theorem failures_reported (transport : Transport σ) (account : Account)
    (events : List Observation) (state : σ) :
    (∀ report : Report, report.IsJudgedAs (report.failure?.mapError .badResponse)) ∧
    (∀ objects containers options, ∃ result new last,
      (bulkDelete transport.observed account objects containers options).attempt (events, state) =
        (result, (events ++ new, last)) ∧
      ∀ deletion, result = .ok deletion → ∃ reports,
        List.Forall₂ (fun send report => Brings send.2 report) (Observation.sends new) reports ∧
          Tallied reports deletion) ∧
    ∀ path format archive options, ∃ result new last,
      (bulkUpload transport.observed account path format archive options).attempt
          (events, state) = (result, (events ++ new, last)) ∧
      ∀ upload, result = .ok upload → ∃ message exchange report,
        Observation.sends new = [(message, exchange)] ∧ Brings exchange report ∧
          Extracted report upload := by
  refine ⟨Report.failure?_isJudgedAs, ?_, fun path format archive options =>
    bulkUpload_extracts transport account path format archive options events state⟩
  intro objects containers options
  obtain ⟨result, new, last, run, cases⟩ :=
    bulkDelete_cases transport account objects containers options events state
  refine ⟨result, new, last, run, ?_⟩
  rintro deletion rfl
  rcases cases with ⟨fault, -, ⟨⟩, -⟩ | ⟨-, ⟨error, -, -, ⟨⟩, -⟩ | ⟨lines, outcomes, deleted⟩⟩
  exact deleted.exists_tallied

/-- The first answer is clean, and those after it state a conflict. -/
def conflictServer : Transport Nat where
  send _ := fun count =>
    (⟨.ok ⟨.ok, .none, .bytes (Utf8.ofText (if count = 0 then "\x7b\"Number Deleted\": 1\x7d" else
      "\x7b\"Number Deleted\": 2, \"Response Status\": \"400 Bad Request\", " ++
        "\"Errors\": [[\"/c\", \"409 Conflict\"]]\x7d"))⟩, 0⟩, count + 1)

def conflict : Failure := ⟨⟨400, by decide⟩, "", [⟨"c", "", ⟨409, by decide⟩⟩]⟩

theorem failures_reported_conflict :
    ∃ new last reports,
      (bulkDelete conflictServer.observed smallAccount [leaf] [leaf.container] .none).attempt
          ([], 0) = (.ok ⟨3, 0, some conflict⟩, (new, last)) ∧
        List.Forall₂ (fun send report => Brings send.2 report) (Observation.sends new) reports ∧
          Tallied reports ⟨3, 0, some conflict⟩ := by
  have value : ((bulkDelete conflictServer.observed smallAccount [leaf] [leaf.container]
      .none).attempt ([], 0)).1 = .ok ⟨3, 0, some conflict⟩ := by
    decide +kernel
  obtain ⟨-, deletions, -⟩ := failures_reported conflictServer smallAccount [] 0
  obtain ⟨result, new, last, run, reported⟩ := deletions [leaf] [leaf.container] .none
  rw [run] at value
  obtain ⟨reports, brings, tallied⟩ := reported ⟨3, 0, some conflict⟩ value
  exact ⟨new, last, reports, by rw [run, ← value]; rfl, brings, tallied⟩

end ObjectStorage.Account
