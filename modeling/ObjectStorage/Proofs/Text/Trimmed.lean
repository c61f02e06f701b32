import Mathlib.Data.List.TakeWhile
import ObjectStorage.Text.Split

/-!
# Trimmed texts

What trimming keeps is the text between the characters that are dropped at both ends.
-/

namespace ObjectStorage.Text

variable {drop : Char → Bool} {before text kept after : List Char}

/-- What is kept stands between characters that are dropped, and does not begin or end with one. -/
structure IsTrimmed (drop : Char → Bool) (text kept : List Char) : Prop where
  between : ∃ before after, text = before ++ kept ++ after ∧
    (∀ c ∈ before, drop c = true) ∧ ∀ c ∈ after, drop c = true
  first : ∀ c ∈ kept.head?, drop c = false
  last : ∀ c ∈ kept.getLast?, drop c = false

/-! ## At the beginning -/

private theorem dropWhile_of_head? (h : ∀ c ∈ text.head?, drop c = false) :
    text.dropWhile drop = text := by
  cases text with
  | nil => rfl
  | cons c rest => exact List.dropWhile_cons_of_neg (by simp [h c rfl])

theorem head?_dropWhile (drop : Char → Bool) (text : List Char) :
    ∀ c ∈ (text.dropWhile drop).head?, drop c = false := by
  intro c hc
  have := List.head?_dropWhile_not drop text
  rw [hc] at this
  simpa using this

/-! ## At the end -/

private theorem trimEnd_append_of_dropped (h : ∀ c ∈ after, drop c = true) :
    trimEnd drop (text ++ after) = trimEnd drop text := by
  rw [trimEnd, List.reverse_append,
    List.dropWhile_append_of_pos fun c hc => h c (List.mem_reverse.mp hc), trimEnd]

private theorem trimEnd_of_getLast? (h : ∀ c ∈ text.getLast?, drop c = false) :
    trimEnd drop text = text := by
  rw [trimEnd, dropWhile_of_head? (by simpa using h), List.reverse_reverse]

theorem exists_trimEnd (drop : Char → Bool) (text : List Char) :
    ∃ after, text = trimEnd drop text ++ after ∧ ∀ c ∈ after, drop c = true := by
  refine ⟨(text.reverse.takeWhile drop).reverse, ?_, fun c hc => ?_⟩
  · rw [trimEnd, ← List.reverse_append, List.takeWhile_append_dropWhile, List.reverse_reverse]
  · exact List.mem_takeWhile_imp (List.mem_reverse.mp hc)

private theorem getLast?_trimEnd (drop : Char → Bool) (text : List Char) :
    ∀ c ∈ (trimEnd drop text).getLast?, drop c = false := by
  rw [trimEnd, List.getLast?_reverse]
  exact head?_dropWhile drop text.reverse

/-! ## At both ends -/

theorem isTrimmed_trim (drop : Char → Bool) (text : List Char) :
    IsTrimmed drop text (trim drop text) := by
  obtain ⟨after, shape, dropped⟩ := exists_trimEnd drop (text.dropWhile drop)
  rw [trim, trimStart]
  refine ⟨⟨text.takeWhile drop, after, ?_, fun c => List.mem_takeWhile_imp, dropped⟩, ?_,
    getLast?_trimEnd drop _⟩
  · rw [List.append_assoc, ← shape, List.takeWhile_append_dropWhile]
  · intro c hc
    refine head?_dropWhile drop text c ?_
    rw [shape, List.head?_append, hc]
    rfl

theorem IsTrimmed.count_eq {c : Char} (trimmed : IsTrimmed drop text kept)
    (stays : drop c = false) : kept.count c = text.count c := by
  obtain ⟨before, after, rfl, first, last⟩ := trimmed.between
  have outside {dropped : List Char} (all : ∀ d ∈ dropped, drop d = true) :
      dropped.count c = 0 := by
    apply List.count_eq_zero.mpr
    intro member
    simp [all c member] at stays
  simp [List.count_append, outside first, outside last]

private theorem IsTrimmed.eq_trim (h : IsTrimmed drop text kept) : kept = trim drop text := by
  obtain ⟨before, after, rfl, start, finish⟩ := h.between
  rw [trim, trimStart, List.append_assoc, List.dropWhile_append_of_pos start]
  cases kept with
  | nil =>
      have nothing : after.dropWhile drop = [] := by
        rw [← List.append_nil after, List.dropWhile_append_of_pos finish]
        rfl
      rw [List.nil_append, nothing]
      rfl
  | cons c rest =>
      rw [List.cons_append, List.dropWhile_cons_of_neg (by simp [h.first c rfl]),
        ← List.cons_append, trimEnd_append_of_dropped finish, trimEnd_of_getLast? h.last]

theorem isTrimmed_iff : IsTrimmed drop text kept ↔ kept = trim drop text :=
  ⟨IsTrimmed.eq_trim, fun h => h ▸ isTrimmed_trim drop text⟩

end ObjectStorage.Text
