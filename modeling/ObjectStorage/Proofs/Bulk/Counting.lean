import ObjectStorage.Proofs.Bulk.Deletion

/-!
# Counts in words

The counts of the reports are added up as words of 64 bits.  What comes out is the exact sum if and
only if no addition goes beyond a word, which is so if no report counts more than its batch has
lines; a report can count more, as it is not held against the batch.
-/

namespace ObjectStorage.Account

open Bulk

variable {σ : Type}

/-! ## Sums of words -/

def exactTotal (counts : List UInt64) : Nat := (counts.map UInt64.toNat).foldr (· + ·) 0

/-- Whether no addition goes beyond a word when the counts are added one after the other. -/
def AddsUp (sofar : UInt64) : List UInt64 → Prop
  | [] => True
  | count :: rest => sofar.toNat + count.toNat < UInt64.size ∧ AddsUp (sofar + count) rest

theorem exactTotal_cons (count : UInt64) (rest : List UInt64) :
    exactTotal (count :: rest) = count.toNat + exactTotal rest :=
  rfl

private theorem toNat_total (counts : List UInt64) :
    (total counts).toNat = exactTotal counts % UInt64.size := by
  induction counts with
  | nil => rfl
  | cons count rest ih =>
      change (count + total rest).toNat = _
      rw [UInt64.toNat_add, ih, exactTotal_cons, UInt64.size]
      omega

theorem addsUp_iff (sofar : UInt64) (counts : List UInt64) :
    AddsUp sofar counts ↔ sofar.toNat + exactTotal counts < UInt64.size := by
  induction counts generalizing sofar with
  | nil => simp [AddsUp, exactTotal, sofar.toNat_lt_size]
  | cons count rest ih =>
      rw [AddsUp, ih, exactTotal_cons, UInt64.toNat_add]
      unfold UInt64.size
      omega

/-- Whether a word is what the counts come to when they are added as words. -/
structure IsSum (counts : List UInt64) (sum : UInt64) : Prop where
  wrapped : sum.toNat = exactTotal counts % UInt64.size
  fits : AddsUp 0 counts ↔ exactTotal counts < UInt64.size
  exact : sum.toNat = exactTotal counts ↔ AddsUp 0 counts

theorem isSum_total (counts : List UInt64) : IsSum counts (total counts) := by
  have fits : AddsUp 0 counts ↔ exactTotal counts < UInt64.size := by
    simpa using addsUp_iff 0 counts
  have wrapped := toNat_total counts
  have word := (total counts).toNat_lt_size
  constructor
  · exact wrapped
  · exact fits
  · rw [fits]
    constructor
    · omega
    · intro few
      rw [wrapped, Nat.mod_eq_of_lt few]

/-! ## What is counted -/

/-- The report that an answer with the accepted status brings, if it can be read. -/
def counted? (exchange : Exchange) : Option Report :=
  match exchange.result with
  | .ok response =>
      if response.status = .ok then (response.body.read >>= Report.parse).toOption else none
  | .error _ => none

/-- The reports that are counted, in order. -/
def counted (sends : List (Http.Request × Exchange)) : List Report :=
  sends.filterMap fun send => counted? send.2

private theorem counted?_of_answered {exchange : Exchange} {deletion : Deletion}
    (answered : Answered exchange (.ok deletion)) :
    ∃ report, counted? exchange = some report ∧ deletion.deleted = report.deleted ∧
      deletion.notFound = report.notFound := by
  generalize houtcome : Except.ok deletion = outcome at answered
  cases answered with
  | @reported response content report failure answered status read parsed judged =>
      cases houtcome
      refine ⟨report, ?_, rfl, rfl⟩
      simp [counted?, answered, status, read, parsed, bind, Except.bind, Except.toOption]
  | _ => cases houtcome

private theorem counted_of_answers {sends : List (Http.Request × Exchange)}
    {deletions : List Deletion}
    (answers : List.Forall₂ (fun send outcome => Answered send.2 outcome) sends
      (deletions.map .ok)) :
    (counted sends).map Report.deleted = deletions.map Deletion.deleted ∧
      (counted sends).map Report.notFound = deletions.map Deletion.notFound := by
  induction deletions generalizing sends with
  | nil =>
      cases answers
      exact ⟨rfl, rfl⟩
  | cons deletion rest ih =>
      cases answers with
      | cons answered further =>
          obtain ⟨report, found, deleted, notFound⟩ := counted?_of_answered answered
          obtain ⟨allDeleted, allNotFound⟩ := ih further
          unfold counted at *
          simp [found, deleted, notFound, allDeleted, allNotFound]

/-- Whether no report counts more than the lines of its batch. -/
def AreCovered (count : Report → UInt64) (sends : List (Http.Request × Exchange))
    (lines : List (List String)) : Prop :=
  List.Forall₂ (fun send batch => ∀ report, counted? send.2 = some report →
    (count report).toNat ≤ batch.length) sends lines

private theorem AreCovered.exactTotal_le {count : Report → UInt64}
    {sends : List (Http.Request × Exchange)} {lines : List (List String)}
    (covered : AreCovered count sends lines) :
    exactTotal ((counted sends).map count) ≤ lines.flatten.length := by
  unfold counted
  induction covered with
  | nil => exact Nat.le_refl 0
  | @cons send batch sends lines first rest ih =>
      rw [List.flatten_cons, List.length_append]
      cases found : counted? send.2 with
      | none =>
          simp only [List.filterMap_cons, found]
          omega
      | some report =>
          have few := first report found
          simp only [List.filterMap_cons, found, List.map_cons, exactTotal_cons]
          omega

/-! ## What is returned -/

variable {account : Account} {options : Options} {all : List Doomed}
  {sends : List (Http.Request × Exchange)} {lines : List (List String)}
  {outcomes : List (Except Error Deletion)} {result : Except Error Deletion}

private theorem Deleted.length_le (deleted : Deleted account options all sends lines outcomes
    result) : lines.flatten.length ≤ all.length := by
  rw [deleted.inOrder, List.length_map, List.length_take]
  exact Nat.min_le_right _ _

theorem Deleted.counted_addsUp {count : Report → UInt64}
    (deleted : Deleted account options all sends lines outcomes result)
    (few : all.length < UInt64.size) (covered : AreCovered count sends lines) :
    AddsUp 0 ((counted sends).map count) := by
  apply (isSum_total _).fits.mpr
  have counts := covered.exactTotal_le
  have paths := deleted.length_le
  omega

theorem Deleted.counted_all {deletion : Deletion}
    (deleted : Deleted account options all sends lines outcomes (.ok deletion)) :
    (counted sends).length = sends.length ∧
      IsSum ((counted sends).map Report.deleted) deletion.deleted ∧
      IsSum ((counted sends).map Report.notFound) deletion.notFound := by
  rcases deleted.ends with ⟨deletions, rfl, ended⟩ | ⟨deletions, error, -, ended⟩
  · cases ended
    obtain ⟨allDeleted, allNotFound⟩ := counted_of_answers deleted.answers
    have answers := deleted.answers.length_eq
    have reports := congrArg List.length allDeleted
    simp only [List.length_map] at answers reports
    rw [allDeleted, allNotFound]
    exact ⟨reports.trans answers.symm, isSum_total _, isSum_total _⟩
  · exact nomatch ended

/-- How the counts of the reports that come for batches of lines are added up and returned. -/
structure Counts (paths : Nat) (sends : List (Http.Request × Exchange))
    (lines : List (List String)) (result : Except Error Deletion) : Prop where
  whole : ∀ deletion, result = .ok deletion → (counted sends).length = sends.length
  deleted : ∀ deletion, result = .ok deletion →
    IsSum ((counted sends).map Report.deleted) deletion.deleted
  notFound : ∀ deletion, result = .ok deletion →
    IsSum ((counted sends).map Report.notFound) deletion.notFound
  covered : ∀ count : Report → UInt64, paths < UInt64.size → AreCovered count sends lines →
    AddsUp 0 ((counted sends).map count)

theorem Deleted.result_counts (deleted : Deleted account options all sends lines outcomes result) :
    Counts all.length sends lines result := by
  constructor
  · rintro deletion rfl
    exact deleted.counted_all.1
  · rintro deletion rfl
    exact deleted.counted_all.2.1
  · rintro deletion rfl
    exact deleted.counted_all.2.2
  · intro count few covered
    exact deleted.counted_addsUp few covered

private theorem counts_nothing (paths : Nat) (error : Error) : Counts paths [] [] (.error error) :=
  ⟨nofun, nofun, nofun, fun _ _ _ => trivial⟩

/--
Whatever the server reports, the counts that are returned are the sums of those in the reports as
words.  They are exact if and only if no addition goes beyond a word, and none does if no report
counts more than the lines of its batch.
-/
theorem counts_added_as_words (transport : Transport σ) (account : Account)
    (objects : List Object) (containers : List Container) (options : Options)
    (events : List Observation) (state : σ) :
    ∃ result new last lines,
      (bulkDelete transport.observed account objects containers options).attempt (events, state) =
        (result, (events ++ new, last)) ∧
      List.Forall₂ (fun send batch => IsDeletion account options batch send.1)
        (Observation.sends new) lines ∧
      (∀ batch ∈ lines, 1 ≤ batch.length ∧ batch.length ≤ account.batchSize) ∧
      Counts (allDoomed objects containers).length (Observation.sends new) lines result := by
  obtain ⟨result, new, last, run, cases⟩ :=
    bulkDelete_cases transport account objects containers options events state
  rcases cases with ⟨fault, -, rfl, none⟩ | ⟨-, ⟨error, -, -, rfl, none⟩ | ⟨lines, outcomes, done⟩⟩
  · refine ⟨_, new, last, [], run, ?_, nofun, ?_⟩ <;> rw [none]
    · exact .nil
    · apply counts_nothing
  · refine ⟨_, new, last, [], run, ?_, nofun, ?_⟩ <;> rw [none]
    · exact .nil
    · apply counts_nothing
  · exact ⟨result, new, last, lines, run, done.requests, done.sizes, done.result_counts⟩

/-- Each report counts one line, and its batch has one. -/
theorem counts_added_as_words_leaf : ∃ new last,
    (bulkDelete deletingServer.observed smallAccount [leaf] [leaf.container] .none).attempt
        ([], ()) = (.ok ⟨2, 0, none⟩, (new, last)) ∧
      AddsUp 0 ((counted (Observation.sends new)).map Report.deleted) ∧
      exactTotal ((counted (Observation.sends new)).map Report.deleted) = 2 := by
  have value : ((bulkDelete deletingServer.observed smallAccount [leaf] [leaf.container]
      .none).attempt ([], ())).1 = .ok ⟨2, 0, none⟩ := by
    decide +kernel
  have answers : (Observation.sends ((bulkDelete deletingServer.observed smallAccount [leaf]
      [leaf.container] .none).attempt ([], ())).2.1).map (fun send =>
        (counted? send.2).map Report.deleted) = [some 1, some 1] := by
    decide +kernel
  obtain ⟨result, new, last, lines, run, requests, sizes, counts⟩ :=
    counts_added_as_words deletingServer smallAccount [leaf] [leaf.container] .none [] ()
  rw [run] at value answers
  obtain rfl : result = .ok ⟨2, 0, none⟩ := value
  have covered : AreCovered Report.deleted (Observation.sends new) lines := by
    apply List.forall₂_iff_zip.mpr
    refine ⟨requests.length_eq, ?_⟩
    intro send batch member report found
    obtain ⟨sent, among⟩ := List.of_mem_zip member
    have one : some report.deleted ∈ [some (1 : UInt64), some 1] := by
      rw [← answers, ← Option.map_some, ← found]
      exact List.mem_map_of_mem sent
    rw [show report.deleted = 1 by simpa using one]
    exact (sizes batch among).1
  have adds := counts.covered Report.deleted (by decide) covered
  have exact := (counts.deleted ⟨2, 0, none⟩ rfl).exact.mpr adds
  exact ⟨new, last, run, adds, exact.symm⟩

/-! ## Where an addition goes beyond a word -/

/-- Answers with the given reports, one after the other. -/
def reportingServer : Transport (List String) where
  send _ := fun contents =>
    (⟨.ok ⟨.ok, .none, .bytes (Utf8.ofText (contents.headD ""))⟩, 0⟩, contents.tail)

/-- The second of two batches of one line is reported after one that filled the word. -/
theorem not_added_exactly :
    ¬∀ (account : Account) (objects : List Object) (containers : List Container)
      (options : Options) (contents : List String) (reports : List Report) (deletion : Deletion),
      List.Forall₂ (fun content report => Report.parse (Utf8.ofText content) = .ok report)
        contents reports →
      (bulkDelete reportingServer account objects containers options).attempt contents =
        (.ok deletion, []) →
      AddsUp 0 (reports.map Report.deleted) ∧
        deletion.deleted.toNat = exactTotal (reports.map Report.deleted) := by
  intro exact
  let contents := ["\x7b\"Number Deleted\": 18446744073709551615\x7d",
    "\x7b\"Number Deleted\": 1\x7d"]
  have value : ((bulkDelete reportingServer smallAccount [leaf] [leaf.container] .none).attempt
      contents).1 = .ok ⟨0, 0, none⟩ := by
    decide +kernel
  have used : ((bulkDelete reportingServer smallAccount [leaf] [leaf.container] .none).attempt
      contents).2 = [] := by
    decide +kernel
  obtain ⟨-, sum⟩ := exact smallAccount [leaf] [leaf.container] .none contents
    [⟨18446744073709551615, 0, 0, "", "", []⟩, ⟨1, 0, 0, "", "", []⟩] _
    (.cons (by decide +kernel) (.cons (by decide +kernel) .nil)) (Prod.ext value used)
  exact absurd sum (by decide)

end ObjectStorage.Account
