import ObjectStorage.Bulk.Report
import ObjectStorage.Proofs.Outcome
import ObjectStorage.Proofs.Text.Numerals

/-!
# Judging reports

A report is a success, or it states a failure, or one of its status lines cannot be read.  A failure
keeps the overall status and every item in its order, and the first line that cannot be read is the
error.
-/

namespace ObjectStorage.Bulk

/-- The first word of the line is the number of the status. -/
def StatesStatus (line : String) (status : Http.Status) : Prop :=
  ∃ word, Text.IsFirstWord line.toList word ∧ Integer.IsNumeral word status.code

def IsReadable (line : String) : Prop := ∃ status, StatesStatus line status

namespace Report

/-! ## Status lines -/

private theorem numeral_of_statusOf {line : String} {status : Http.Status}
    (h : statusOf line = .ok status) :
    Integer.readUnsigned 65535 (Text.firstWord line).toList = .ok status.code := by
  unfold statusOf at h
  split at h
  · exact nomatch h
  · next code read =>
    unfold Http.Status.ofCode? at h
    split at h
    · next coded =>
      split at coded
      · cases coded
        cases h
        exact read
      · exact nomatch coded
    · exact nomatch h

private theorem statusOf_of_numeral {line : String} {status : Http.Status}
    (h : Integer.readUnsigned 65535 (Text.firstWord line).toList = .ok status.code) :
    statusOf line = .ok status := by
  unfold statusOf
  rw [h]
  simp only [Http.Status.ofCode?, dif_pos status.hasThreeDigits]

theorem statusOf_ok_iff {line : String} {status : Http.Status} :
    statusOf line = .ok status ↔ StatesStatus line status := by
  constructor
  · intro h
    obtain ⟨numeral, -⟩ := Integer.readUnsigned_ok_iff.mp (numeral_of_statusOf h)
    refine ⟨_, Text.isFirstWord_firstWord ?_, numeral⟩
    obtain ⟨digits, rfl | shape, some, -, -⟩ := numeral
    · exact some
    · rw [shape]
      exact List.cons_ne_nil _ _
  · rintro ⟨word, first, numeral⟩
    apply statusOf_of_numeral
    rw [first.eq_firstWord, Integer.readUnsigned_ok_iff]
    have := status.hasThreeDigits
    exact ⟨numeral, by omega⟩

theorem status_unique {line : String} {first second : Http.Status}
    (h : StatesStatus line first) (other : StatesStatus line second) : first = second :=
  Except.ok.inj ((statusOf_ok_iff.mpr h).symm.trans (statusOf_ok_iff.mpr other))

theorem statusOf_of_not_isReadable {line : String} (h : ¬IsReadable line) :
    statusOf line = .error (.reportStatus line) := by
  cases read : statusOf line with
  | ok status => exact absurd ⟨status, statusOf_ok_iff.mp read⟩ h
  | error fault =>
      unfold statusOf at read
      split at read
      · exact read.symm
      · split at read
        · exact nomatch read
        · exact read.symm

/-! ## Parts of a report -/

/-- The overall status, which is a success if the report states none. -/
def StatesOverall (report : Report) (status : Http.Status) : Prop :=
  report.status = "" ∧ status = .ok ∨ report.status ≠ "" ∧ StatesStatus report.status status

def statusLines (report : Report) : List String :=
  (if report.status = "" then [] else [report.status]) ++ report.errors.map (·.2)

def IsSuccess (report : Report) : Prop :=
  (report.status = "" ∨
    ∃ status, StatesStatus report.status status ∧ 200 ≤ status.code ∧ status.code < 300) ∧
  report.errors = []

/-- The item is what the entry names, with the status that it states. -/
structure Names (entry : String × String) (item : FailedItem) : Prop where
  place : (item.container, item.object) = placeOf entry.1
  status : StatesStatus entry.2 item.status

/-- The failure tells all that the report says. -/
structure Tells (report : Report) (failure : Failure) : Prop where
  overall : report.StatesOverall failure.status
  items : List.Forall₂ Names report.errors failure.items
  message : failure.overall = Text.trimBlanks report.message

/-- Of the lines, the first that cannot be read. -/
def IsFirstUnreadable (lines : List String) (line : String) : Prop :=
  ∃ before after, lines = before ++ line :: after ∧ (∀ other ∈ before, IsReadable other) ∧
    ¬IsReadable line

private theorem failedItem_cases (entry : String × String) :
    (∃ item, failedItem entry = .ok item ∧ Names entry item) ∨
      ¬IsReadable entry.2 ∧ failedItem entry = .error (.reportStatus entry.2) := by
  unfold failedItem
  rcases place : placeOf entry.1 with ⟨container, object⟩
  by_cases readable : IsReadable entry.2
  · obtain ⟨status, states⟩ := readable
    rw [statusOf_ok_iff.mpr states]
    exact .inl ⟨⟨container, object, status⟩, rfl, place.symm, states⟩
  · rw [statusOf_of_not_isReadable readable]
    exact .inr ⟨readable, rfl⟩

private theorem items_cases (entries : List (String × String)) :
    (∃ items, entries.mapM failedItem = .ok items ∧ List.Forall₂ Names entries items) ∨
      ∃ line, IsFirstUnreadable (entries.map (·.2)) line ∧
        entries.mapM failedItem = .error (.reportStatus line) := by
  induction entries with
  | nil => exact .inl ⟨[], rfl, .nil⟩
  | cons entry rest ih =>
      rw [List.mapM_cons, List.map_cons]
      rcases failedItem_cases entry with ⟨item, taken, names⟩ | ⟨unreadable, refused⟩
      · rw [taken]
        rcases ih with ⟨items, run, all⟩ | ⟨line, ⟨before, after, shape, readable, bad⟩, run⟩
        · rw [run]
          exact .inl ⟨item :: items, rfl, .cons names all⟩
        · rw [run, shape]
          refine .inr ⟨line, ⟨entry.2 :: before, after, rfl, ?_, bad⟩, rfl⟩
          exact List.forall_mem_cons.mpr ⟨⟨_, names.status⟩, readable⟩
      · rw [refused]
        exact .inr ⟨entry.2, ⟨[], _, rfl, nofun, unreadable⟩, rfl⟩

private theorem overallStatus_cases (report : Report) :
    (∃ status, report.overallStatus = .ok status ∧ report.StatesOverall status) ∨
      report.status ≠ "" ∧ ¬IsReadable report.status ∧
        report.overallStatus = .error (.reportStatus report.status) := by
  unfold overallStatus
  by_cases missing : report.status = ""
  · rw [if_pos missing]
    exact .inl ⟨.ok, rfl, .inl ⟨missing, rfl⟩⟩
  · rw [if_neg missing]
    by_cases readable : IsReadable report.status
    · obtain ⟨status, states⟩ := readable
      exact .inl ⟨status, statusOf_ok_iff.mpr states, .inr ⟨missing, states⟩⟩
    · exact .inr ⟨missing, readable, statusOf_of_not_isReadable readable⟩

/-! ## The judgement -/

/-- How a report ends: with nothing, with a failure, or with a line that cannot be read. -/
inductive Judged (report : Report) : Except ResponseFault (Option Failure) → Prop
  | success (success : report.IsSuccess) : Judged report (.ok none)
  | failure {failure : Failure} (fails : ¬report.IsSuccess) (tells : report.Tells failure) :
      Judged report (.ok (some failure))
  | unreadable {line : String} (first : IsFirstUnreadable report.statusLines line) :
      Judged report (.error (.reportStatus line))

theorem StatesOverall.isSuccess_iff {report : Report} {status : Http.Status}
    (states : report.StatesOverall status) :
    report.IsSuccess ↔ status.isSuccess = true ∧ report.errors = [] := by
  simp only [IsSuccess, Http.Status.isSuccess, Bool.and_eq_true, decide_eq_true_eq]
  refine and_congr_left fun _ => ?_
  rcases states with ⟨missing, rfl⟩ | ⟨stated, states⟩
  · simp [missing, Http.Status.ok]
  · constructor
    · rintro (missing | ⟨other, same, success⟩)
      · exact absurd missing stated
      · rw [status_unique states same]
        exact success
    · exact fun success => .inr ⟨status, states, success⟩

theorem failure?_judged (report : Report) : report.Judged report.failure? := by
  unfold failure?
  rcases report.overallStatus_cases with ⟨status, run, states⟩ | ⟨stated, unreadable, run⟩
  · rw [run]
    rcases items_cases report.errors with ⟨items, run, names⟩ | ⟨line, first, run⟩
    · have none : items.isEmpty = true ↔ report.errors = [] := by
        rw [List.isEmpty_iff, ← List.length_eq_zero_iff, ← names.length_eq,
          List.length_eq_zero_iff]
      have success := states.isSuccess_iff
      rw [← none, ← Bool.and_eq_true] at success
      rw [run]
      dsimp only [bind, Except.bind]
      split
      · next clean => exact .success (success.mpr clean)
      · next failed => exact .failure (fun h => failed (success.mp h)) ⟨states, names, rfl⟩
    · rw [run]
      obtain ⟨before, after, shape, readable, bad⟩ := first
      refine .unreadable ?_
      rcases states with ⟨missing, -⟩ | ⟨stated, states⟩
      · exact ⟨before, after, by simp [statusLines, missing, shape], readable, bad⟩
      · refine ⟨report.status :: before, after, by simp [statusLines, stated, shape], ?_, bad⟩
        exact List.forall_mem_cons.mpr ⟨⟨status, states⟩, readable⟩
  · rw [run]
    exact .unreadable ⟨[], report.errors.map (·.2), by simp [statusLines, stated], nofun, unreadable⟩

/-! ## What the judgement depends on -/

variable {report : Report} {failure : Failure} {line : String}

theorem mem_statusLines :
    line ∈ report.statusLines ↔
      report.status ≠ "" ∧ line = report.status ∨ ∃ entry ∈ report.errors, entry.2 = line := by
  unfold statusLines
  split <;> simp_all

theorem IsSuccess.isReadable_of_mem (success : report.IsSuccess) (h : line ∈ report.statusLines) :
    IsReadable line := by
  rcases mem_statusLines.mp h with ⟨stated, rfl⟩ | ⟨entry, hentry, -⟩
  · rcases success.1 with missing | ⟨status, states, -⟩
    · exact absurd missing stated
    · exact ⟨status, states⟩
  · rw [success.2] at hentry
    exact nomatch hentry

theorem Tells.isReadable_of_mem (tells : report.Tells failure) (h : line ∈ report.statusLines) :
    IsReadable line := by
  rcases mem_statusLines.mp h with ⟨stated, rfl⟩ | ⟨entry, hentry, rfl⟩
  · rcases tells.overall with ⟨missing, -⟩ | ⟨-, states⟩
    · exact absurd missing stated
    · exact ⟨_, states⟩
  · obtain ⟨item, -, names⟩ := exists_of_forall₂ tells.items hentry
    exact ⟨item.status, names.status⟩

private theorem IsFirstUnreadable.exists_unreadable {lines : List String}
    (first : IsFirstUnreadable lines line) : ∃ line ∈ lines, ¬IsReadable line := by
  obtain ⟨before, after, rfl, -, bad⟩ := first
  exact ⟨line, by simp, bad⟩

/-- The judgement is decided by what the report says. -/
structure IsJudgedAs (report : Report) (judgement : Except Error (Option Failure)) : Prop where
  absent : judgement = .ok none ↔ report.IsSuccess
  told : ¬report.IsSuccess → (∀ line ∈ report.statusLines, IsReadable line) →
    ∃ failure, judgement = .ok (some failure) ∧ report.Tells failure
  refused : (∃ line ∈ report.statusLines, ¬IsReadable line) →
    ∃ line, IsFirstUnreadable report.statusLines line ∧
      judgement = .error (.badResponse (.reportStatus line))

theorem failure?_isJudgedAs (report : Report) :
    report.IsJudgedAs (report.failure?.mapError .badResponse) := by
  have judged := report.failure?_judged
  generalize report.failure? = judgement at judged ⊢
  cases judged with
  | success success =>
      refine ⟨iff_of_true rfl success, fun fails => absurd success fails, ?_⟩
      rintro ⟨line, hline, bad⟩
      exact absurd (success.isReadable_of_mem hline) bad
  | failure fails tells =>
      refine ⟨iff_of_false nofun fails, fun _ _ => ⟨_, rfl, tells⟩, ?_⟩
      rintro ⟨line, hline, bad⟩
      exact absurd (tells.isReadable_of_mem hline) bad
  | unreadable first =>
      obtain ⟨bad, hbad, unreadable⟩ := first.exists_unreadable
      constructor
      · exact iff_of_false nofun fun success => unreadable (success.isReadable_of_mem hbad)
      · exact fun _ readable => absurd (readable bad hbad) unreadable
      · exact fun _ => ⟨_, first, rfl⟩

end Report

end ObjectStorage.Bulk
