import ObjectStorage.Proofs.Headers.Names

/-!
# Changing the case of a character again

The first character of what a character becomes in some case stays as it is when it is put in that
case again.  For the tables this means that no run leads into a run, and that no run leads to a
character that becomes several.
-/

namespace ObjectStorage.Text

namespace Casing

def Run.start (run : Run) : Nat := (run.first + run.shift).toNat

def Run.stop (run : Run) : Nat := (run.last + run.shift).toNat

/-- The run leads to no character that the other covers, for it leads elsewhere or in between. -/
def apart (run other : Run) : Bool :=
  Nat.blt run.stop other.first || Nat.blt other.last run.start ||
    ((run.stride == 2 || run.first == run.last) && other.stride == 2 &&
      (run.start + other.first) % 2 == 1)

def avoids (run : Run) (n : Nat) : Bool := Nat.blt run.stop n || Nat.blt n run.start

variable {run other : Run} {runs : List Run} {expansions : List (Nat × List Nat)} {n : Nat}

theorem Run.image_of_covers (start : 0 ≤ run.first + run.shift) (h : run.covers n = true) :
    run.start ≤ (n + run.shift).toNat ∧ (n + run.shift).toNat ≤ run.stop ∧
      ((n + run.shift).toNat - run.start) % run.stride = 0 := by
  simp only [Run.covers, Bool.and_eq_true, decide_eq_true_eq, beq_iff_eq] at h
  obtain ⟨⟨low, high⟩, step⟩ := h
  refine ⟨?_, ?_, ?_⟩
  · rw [Run.start]
    omega
  · rw [Run.stop]
    omega
  · have same : (n + run.shift).toNat - run.start = n - run.first := by
      rw [Run.start]
      omega
    rw [same, step]

private theorem not_covers_of_apart (start : 0 ≤ run.first + run.shift) (h : run.covers n = true)
    (table : apart run other = true) : other.covers (n + run.shift).toNat = false := by
  obtain ⟨low, high, step⟩ := run.image_of_covers start h
  generalize (n + run.shift).toNat = image at low high step
  simp only [apart, Bool.or_eq_true, Bool.and_eq_true, Nat.blt_eq, beq_iff_eq] at table
  refine Bool.eq_false_iff.mpr fun covered => ?_
  simp only [Run.covers, Bool.and_eq_true, decide_eq_true_eq, beq_iff_eq] at covered
  obtain ⟨⟨above, below⟩, aligned⟩ := covered
  rcases table with (before | after) | ⟨⟨two | alone, pairs⟩, odd⟩
  · omega
  · omega
  · rw [two] at step
    rw [pairs] at aligned
    omega
  · have same : run.start = run.stop := by rw [Run.start, Run.stop, alone]
    rw [pairs] at aligned
    omega

/-- No run leads into a run. -/
def areApart (runs : List Run) : Bool := runs.all fun run => runs.all (apart run)

/-- No run leads to a character that becomes several. -/
def areSpared (runs : List Run) (expansions : List (Nat × List Nat)) : Bool :=
  runs.all fun run => expansions.all fun entry => avoids run entry.1

private theorem mapped_shifted (start : ∀ run ∈ runs, 0 ≤ run.first + run.shift)
    (apart : areApart runs = true) (spared : areSpared runs expansions = true)
    (alone : expansions.lookup n = none) :
    mapped runs expansions (shifted runs n) = [Char.ofNat (shifted runs n)] := by
  cases found : runs.find? fun run => run.covers n with
  | none =>
      have same : shifted runs n = n := by simp only [shifted, found]
      rw [same, mapped, alone]
      simp only [same]
  | some run =>
      have hrun := List.mem_of_find?_eq_some found
      have covers := List.find?_some found
      obtain ⟨low, high, -⟩ := run.image_of_covers (start run hrun) covers
      have same : shifted runs n = (n + run.shift).toNat := by simp only [shifted, found]
      have outside : runs.find? (fun other => other.covers (n + run.shift).toNat) = none := by
        rw [List.find?_eq_none]
        intro other hother
        rw [Bool.not_eq_true]
        apply not_covers_of_apart (start run hrun) covers
        exact List.all_eq_true.mp (List.all_eq_true.mp apart run hrun) other hother
      have absent : expansions.lookup (n + run.shift).toNat = none := by
        rw [List.lookup_eq_none_iff]
        intro entry hentry
        have := List.all_eq_true.mp (List.all_eq_true.mp spared run hrun) entry hentry
        simp only [avoids, Bool.or_eq_true, Nat.blt_eq] at this
        rw [bne_iff_ne]
        omega
      rw [same, mapped, absent]
      simp only [shifted, outside]

end Casing

open Casing

structure IsImage (capital : Bool) (c d : Char) (tail : List Char) : Prop where
  stays : cased capital d = [d]
  hyphen : d = '-' ↔ c = '-'
  others : ∀ e ∈ tail, c ≠ '-' ∧ e ≠ '-' ∧ (lowerCase e).length = 1
  small : capital = false → ∀ e ∈ tail, lowerCase e = [e]

private theorem cased_cased_ascii : ∀ capital : Bool, ∀ n < 128, ∃ d,
    cased capital (Char.ofNat n) = [d] ∧ cased capital d = [d] ∧
      (d = '-' ↔ Char.ofNat n = '-') := by
  intro capital n h
  refine ⟨(cased capital (Char.ofNat n)).head!, ?_⟩
  revert capital n
  decide +kernel

/-- Whether the characters are what one character beyond ASCII becomes in some case. -/
def isExpansion (capital : Bool) : List Char → Bool
  | [] => false
  | d :: tail => cased capital d = [d] && d != '-' && tail.all fun e =>
      e != '-' && (lowerCase e).length == 1 && (capital || lowerCase e = [e])

private theorem image_of_isExpansion {capital : Bool} {c : Char} {image : List Char} (h : c ≠ '-')
    (settled : isExpansion capital image = true) :
    ∃ d tail, image = d :: tail ∧ IsImage capital c d tail := by
  match image with
  | [] => exact nomatch settled
  | d :: tail =>
      simp only [isExpansion, Bool.and_eq_true, decide_eq_true_eq, bne_iff_ne, ne_eq,
        List.all_eq_true, beq_iff_eq, Bool.or_eq_true] at settled
      obtain ⟨⟨stays, ne⟩, others⟩ := settled
      refine ⟨d, tail, rfl, stays, iff_of_false ne h, fun e he => ?_, fun low e he => ?_⟩
      · exact ⟨h, (others e he).1⟩
      · rcases (others e he).2 with capital | same
        · exact absurd capital (by simp [low])
        · exact same

structure AreTables (capital : Bool) (runs : List Run) (expansions : List (Nat × List Nat)) :
    Prop where
  mapped : ∀ c : Char, 128 ≤ c.toNat → cased capital c = mapped runs expansions c.toNat
  start : ∀ run ∈ runs, 0 ≤ run.first + run.shift
  apart : areApart runs = true
  spared : areSpared runs expansions = true
  expanded : (expansions.all fun entry =>
    isExpansion capital (entry.2.map Char.ofNat)) = true
  near : ∀ n, 128 ≤ n → shifted runs n < 128 →
    cased capital (Char.ofNat (shifted runs n)) = [Char.ofNat (shifted runs n)] ∧
      shifted runs n ≠ 45

theorem areTables_upper : AreTables true upperRuns upperExpansions where
  mapped c h := by
    rw [cased, if_pos rfl, upperCase, if_neg (Nat.not_lt.mpr h)]
  start := by decide +kernel
  apart := by decide +kernel
  spared := by decide +kernel
  expanded := by decide +kernel
  near n h low := by
    rcases shifted_beyond upperRuns_beyond h with far | near
    · omega
    · revert near
      generalize shifted upperRuns n = image
      revert image
      decide

theorem areTables_lower : AreTables false lowerRuns lowerExpansions where
  mapped c h := by
    rw [cased, if_neg Bool.false_ne_true, lowerCase, if_neg (Nat.not_lt.mpr h)]
  start := by decide +kernel
  apart := by decide +kernel
  spared := by decide +kernel
  expanded := by decide +kernel
  near n h low := by
    rcases shifted_beyond lowerRuns_beyond h with far | near
    · omega
    · revert near
      generalize shifted lowerRuns n = image
      revert image
      decide

namespace AreTables

variable {capital : Bool} {runs : List Run} {expansions : List (Nat × List Nat)} {c : Char} {n : Nat}

private theorem image_of_expansion (tables : AreTables capital runs expansions) (h : c ≠ '-')
    {several : List Nat} (found : expansions.lookup n = some several) :
    ∃ d tail, several.map Char.ofNat = d :: tail ∧ IsImage capital c d tail := by
  obtain ⟨before, after, rfl, -⟩ := List.lookup_eq_some_iff.mp found
  apply image_of_isExpansion h
  exact List.all_eq_true.mp tables.expanded (n, several)
    (List.mem_append_right before List.mem_cons_self)

private theorem image_of_shifted (tables : AreTables capital runs expansions) (h : c ≠ '-')
    (beyond : 128 ≤ n) (alone : expansions.lookup n = none) :
    IsImage capital c (Char.ofNat (shifted runs n)) [] := by
  have again := mapped_shifted tables.start tables.apart tables.spared alone
  have near := tables.near n beyond
  generalize shifted runs n = image at again near
  refine ⟨?_, iff_of_false ?_ h, nofun, fun _ => nofun⟩
  · by_cases low : image < 128
    · exact (near low).1
    -- A number that is no character becomes the null character, which has no case.
    rcases toNat_ofNat image with same | zero
    · rw [tables.mapped _ (by omega), same, again]
    · have null : Char.ofNat image = Char.ofNat 0 := Char.ext (UInt32.toNat_inj.mp zero)
      rw [null]
      cases capital <;> rfl
  · intro hyphen
    have value : (Char.ofNat image).toNat = 45 := congrArg Char.toNat hyphen
    rcases toNat_ofNat image with same | zero
    · exact (near (by omega)).2 (by omega)
    · omega

theorem exists_isImage (tables : AreTables capital runs expansions) (h : c ≠ '-')
    (beyond : 128 ≤ c.toNat) :
    ∃ d tail, cased capital c = d :: tail ∧ IsImage capital c d tail := by
  rw [tables.mapped c beyond, Casing.mapped]
  cases found : expansions.lookup c.toNat with
  | some several => exact tables.image_of_expansion h found
  | none => exact ⟨_, [], rfl, tables.image_of_shifted h beyond found⟩

end AreTables

theorem cased_image (capital : Bool) (c : Char) :
    ∃ d tail, cased capital c = d :: tail ∧ IsImage capital c d tail := by
  by_cases ascii : c.toNat < 128
  · have := cased_cased_ascii capital c.toNat ascii
    rw [Char.ofNat_toNat] at this
    obtain ⟨d, image, stays, hyphen⟩ := this
    exact ⟨d, [], image, stays, hyphen, nofun, fun _ => nofun⟩
  · have ne : c ≠ '-' := by
      rintro rfl
      exact ascii (by decide)
    cases capital with
    | true => exact areTables_upper.exists_isImage ne (Nat.le_of_not_lt ascii)
    | false => exact areTables_lower.exists_isImage ne (Nat.le_of_not_lt ascii)

end ObjectStorage.Text
