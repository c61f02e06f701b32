import ObjectStorage.Proofs.Text.Tables
import ObjectStorage.Url.Domain

/-!
# Ideographs in domain names

What the tables say about a range of characters in which none of them changes: each of the
characters stands for itself, alone or beside others, and is written from left to right.
-/

namespace ObjectStorage.Url.Domain

open Text Text.CharMap

def firstIdeograph : Nat := 0x4E00

def afterIdeographs : Nat := 0xA000

def IsIdeograph (c : Char) : Prop := firstIdeograph ≤ c.toNat ∧ c.toNat < afterIdeographs

/-! ## One pass over each table -/

private theorem mapping_settled :
    isSettled firstIdeograph afterIdeographs ['v'] (entries mappingChanges) = true := by
  apply holds_of_spelled
  unfold mappingChanges
  apply Exists.intro
  constructor
  · repeat
      apply Spelled.cons
      · rfl
    exact Spelled.nil
  · decide +kernel

private theorem classes_settled :
    isSettled firstIdeograph afterIdeographs ['0'] (entries Normal.classChanges) = true := by
  apply holds_of_spelled
  unfold Normal.classChanges
  apply Exists.intro
  constructor
  · repeat
      apply Spelled.cons
      · rfl
    exact Spelled.nil
  · decide +kernel

private theorem marks_settled :
    isSettled firstIdeograph afterIdeographs ['-'] (entries Normal.markChanges) = true := by
  apply holds_of_spelled
  unfold Normal.markChanges
  apply Exists.intro
  constructor
  · repeat
      apply Spelled.cons
      · rfl
    exact Spelled.nil
  · decide +kernel

private theorem directions_settled :
    isSettled firstIdeograph afterIdeographs ['l'] (entries directionChanges) = true := by
  apply holds_of_spelled
  unfold directionChanges
  apply Exists.intro
  constructor
  · repeat
      apply Spelled.cons
      · rfl
    exact Spelled.nil
  · decide +kernel

def isOutside (n : Nat) : Bool := n < firstIdeograph || afterIdeographs ≤ n

theorem compositions_outside :
    (Normal.compositions.all fun made =>
      isOutside made.1.toNat && isOutside made.2.2.toNat) = true := by
  apply holds_of_spelled fun entries => (entries.filterMap fun entry => do
    let parts ← cut? '.' entry.2
    return (Char.ofNat entry.1, ← hexChar? parts.1, ← hexChar? parts.2)).all fun made =>
      isOutside made.1.toNat && isOutside made.2.2.toNat
  unfold Normal.composed
  apply Exists.intro
  constructor
  · repeat
      apply Spelled.cons
      · rfl
    exact Spelled.nil
  · decide +kernel

/-! ## One character -/

theorem IsIdeograph.le_toNat {c : Char} (h : IsIdeograph c) : 0x80 ≤ c.toNat := by
  have := h.1
  simp only [firstIdeograph] at this
  omega

theorem IsIdeograph.ne_of_lt {c : Char} (h : IsIdeograph c) {d : Char}
    (hd : d.toNat < firstIdeograph) : c ≠ d := by
  rintro rfl
  have := h.1
  omega

section

variable {c : Char}

theorem IsIdeograph.not_outside (h : IsIdeograph c) : isOutside c.toNat = false := by
  obtain ⟨low, high⟩ := h
  simp only [isOutside, Bool.or_eq_false_iff, decide_eq_false_iff_not]
  omega

theorem IsIdeograph.mapChar?_eq (h : IsIdeograph c) : Domain.mapChar? c = some [c] := by
  obtain ⟨start, -, hfind⟩ := find?_of_isSettled Treatment.read mapping_settled h.1 h.2
  have : ¬c.toNat < 0x80 := Nat.not_lt.mpr h.le_toNat
  rw [Domain.mapChar?, if_neg this, mapping, hfind]
  rfl

private theorem IsIdeograph.combiningClass_eq (h : IsIdeograph c) :
    Normal.combiningClass c = 0 := by
  obtain ⟨start, -, hfind⟩ := find?_of_isSettled
    (fun digits => digits.foldl (fun n c => 10 * n + (c.toNat - 48)) 0) classes_settled h.1 h.2
  unfold Normal.combiningClass
  split
  · rw [CharMap.get, Normal.classes, hfind]
    rfl
  · rfl

theorem IsIdeograph.isMark_eq (h : IsIdeograph c) : Normal.isMark c = false := by
  obtain ⟨start, -, hfind⟩ := find?_of_isSettled
    (fun text => decide (text = ['m'])) marks_settled h.1 h.2
  rw [Normal.isMark, CharMap.get, Normal.marks, hfind]
  simp

theorem IsIdeograph.isRightToLeft_eq (h : IsIdeograph c) : Domain.isRightToLeft c = false := by
  obtain ⟨start, -, hfind⟩ := find?_of_isSettled Direction.read
    directions_settled h.1 h.2
  have : ¬c.toNat < 0x80 := Nat.not_lt.mpr h.le_toNat
  have left : direction c = .leftToRight := by
    rw [direction, if_neg this, directions, CharMap.get, hfind]
    rfl
  rw [Domain.isRightToLeft, left]

private theorem IsIdeograph.parts_eq (h : IsIdeograph c) : Normal.parts c = [c] := by
  have notFound : Normal.compositions.find? (fun made => made.1 = c) = none := by
    rw [List.find?_eq_none]
    intro made hmade heq
    have := List.all_eq_true.mp compositions_outside made hmade
    simp only [decide_eq_true_eq] at heq
    rw [heq, h.not_outside] at this
    exact nomatch this
  unfold Normal.parts
  split
  · rfl
  · rw [notFound]

private theorem IsIdeograph.composite?_eq (h : IsIdeograph c) (base : Char) :
    Normal.composite? base c = none := by
  have notFound : Normal.compositions.find? (fun made => made.2 = (base, c)) = none := by
    rw [List.find?_eq_none]
    intro made hmade heq
    have := List.all_eq_true.mp compositions_outside made hmade
    simp only [decide_eq_true_eq] at heq
    rw [heq, h.not_outside, Bool.and_false] at this
    exact nomatch this
  have noSyllable : Normal.syllable? base c = none := by
    obtain ⟨low, high⟩ := h
    simp only [firstIdeograph, afterIdeographs] at low high
    unfold Normal.syllable?
    simp only
    rw [if_neg (by omega), if_neg (by omega)]
  unfold Normal.composite?
  split
  · rfl
  · rw [noSyllable, notFound]
    rfl

end

/-! ## Normal form -/

/-- A character that neither is composed nor composes nor moves. -/
structure IsInert (c : Char) : Prop where
  parts : Normal.parts c = [c]
  combiningClass : Normal.combiningClass c = 0
  composite? : ∀ base, Normal.composite? base c = none

theorem IsIdeograph.isInert {c : Char} (h : IsIdeograph c) : IsInert c :=
  ⟨h.parts_eq, h.combiningClass_eq, h.composite?_eq⟩

theorem isInert_of_ascii {c : Char} (h : c.toNat < 0x80) : IsInert c := by
  have early : Normal.mayCombine c = false := by
    simp only [Normal.mayCombine, decide_eq_false_iff_not]
    omega
  constructor
  · rw [Normal.parts, if_pos (by omega)]
  · rw [Normal.combiningClass, early]
    rfl
  · intro base
    rw [Normal.composite?, early]
    rfl

private theorem parts_of_inert {text : List Char} (h : ∀ c ∈ text, IsInert c) :
    text.flatMap Normal.parts = text := by
  induction text with
  | nil => rfl
  | cons c rest ih =>
      have hc := h c (by simp)
      simp [hc.parts, ih fun d hd => h d (by simp [hd])]

private theorem order_of_inert {text : List Char} (h : ∀ c ∈ text, IsInert c) :
    Normal.order text = text := by
  induction text with
  | nil => rfl
  | cons c rest ih =>
      rw [Normal.order, ih fun d hd => h d (by simp [hd])]
      cases rest with
      | nil => rfl
      | cons d others =>
          have hd := h d (by simp)
          simp [Normal.sink, hd.combiningClass]

private theorem composeFrom_of_inert {base : Char} {text : List Char} (h : ∀ c ∈ text, IsInert c) :
    Normal.composeFrom base [] text = base :: text := by
  induction text generalizing base with
  | nil => rfl
  | cons c rest ih =>
      have hc := h c (by simp)
      simp [Normal.composeFrom, hc.composite?, hc.combiningClass,
        ih fun d hd => h d (by simp [hd])]

theorem normalize_of_inert {text : List Char} (h : ∀ c ∈ text, IsInert c) :
    normalize text = text := by
  rw [Text.normalize, Normal.decompose, parts_of_inert h, parts_of_inert h, order_of_inert h]
  cases text with
  | nil => rfl
  | cons c rest =>
      have hc := h c (by simp)
      rw [Normal.compose, if_pos hc.combiningClass,
        composeFrom_of_inert fun d hd => h d (by simp [hd])]

end ObjectStorage.Url.Domain
