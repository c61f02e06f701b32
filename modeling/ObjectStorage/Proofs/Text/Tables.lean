import Mathlib.Data.List.TakeWhile
import ObjectStorage.Text.CharMap

/-!
# Looking characters up in tables

The search in a map finds the last change at or before a character.  Between two changes the map is
constant, so that one pass over the table decides what it says about all the characters between.
-/

namespace ObjectStorage.Text.CharMap

variable {α : Type}

/-! ## The search -/

theorem countUpTo_eq {changes : Array (Nat × α)} {point count low high : Nat}
    (hlow : low ≤ count) (hhigh : count ≤ high)
    (before : ∀ i < count, ∃ change, changes[i]? = some change ∧ change.1 ≤ point)
    (after : ∀ i change, count ≤ i → changes[i]? = some change → point < change.1) :
    countUpTo changes point low high = count := by
  induction low, high using countUpTo.induct changes point with
  | case1 low high hlt middle h ih =>
      obtain ⟨change, hchange, hle⟩ := Option.any_eq_true .. |>.mp h
      have : middle < count := by
        by_contra hcount
        have := after middle change (by omega) hchange
        simp only [decide_eq_true_eq] at hle
        omega
      rw [countUpTo, if_pos hlt, if_pos h]
      exact ih (by omega) hhigh
  | case2 low high hlt middle h ih =>
      have : count ≤ middle := by
        by_contra hcount
        obtain ⟨change, hchange, hle⟩ := before middle (by omega)
        apply h
        rw [hchange]
        simpa using hle
      rw [countUpTo, if_pos hlt, if_neg h]
      exact ih hlow this
  | case3 low high hlt =>
      rw [countUpTo, if_neg hlt]
      omega

private theorem find?_of_split {map : CharMap α} {pre post : List (Nat × α)} {entry : Nat × α}
    (h : map.changes.toList = pre ++ entry :: post) {c : Char}
    (hpre : ∀ e ∈ pre, e.1 ≤ c.toNat) (hentry : entry.1 ≤ c.toNat)
    (hpost : ∀ e ∈ post, c.toNat < e.1) : map.find? c = some entry := by
  have get (i : Nat) : map.changes[i]? = (pre ++ entry :: post)[i]? := by
    rw [← h, Array.getElem?_toList]
  have count : countUpTo map.changes c.toNat 0 map.changes.size = pre.length + 1 := by
    refine countUpTo_eq (by omega) ?_ ?_ ?_
    · rw [← Array.length_toList, h]
      simp
    · intro i hi
      have bound : i < (pre ++ entry :: post).length := by
        simp
        omega
      refine ⟨(pre ++ entry :: post)[i], by rw [get, List.getElem?_eq_getElem bound], ?_⟩
      have hmem : (pre ++ entry :: post)[i] ∈ pre ∨ (pre ++ entry :: post)[i] = entry := by
        by_cases hlast : i = pre.length
        · subst hlast
          simp
        · left
          rw [List.getElem_append_left (by omega)]
          exact List.getElem_mem _
      rcases hmem with hmem | hmem
      · exact hpre _ hmem
      · rw [hmem]
        exact hentry
    · intro i change hi hchange
      rw [get, List.getElem?_append_right (by omega)] at hchange
      obtain ⟨j, hj⟩ : ∃ j, i - pre.length = j + 1 := ⟨i - pre.length - 1, by omega⟩
      rw [hj, List.getElem?_cons_succ] at hchange
      exact hpost change (List.mem_of_getElem? hchange)
  rw [find?, count]
  simp [get]

/-! ## Lines of a table -/

inductive Spelled : List String → List (List Char) → Prop
  | nil : Spelled [] []
  | cons {line : String} {spelling : List Char} {lines : List String}
      {spellings : List (List Char)} (first : line = String.ofList spelling)
      (rest : Spelled lines spellings) : Spelled (line :: lines) (spelling :: spellings)

def entriesOf (spellings : List (List Char)) : List (Nat × List Char) :=
  spellings.flatMap fun spelling => (split ' ' spelling).filterMap entry?

private theorem Spelled.entries_eq {lines : List String} {spellings : List (List Char)}
    (h : Spelled lines spellings) : CharMap.entries lines = entriesOf spellings := by
  induction h with
  | nil => rfl
  | cons first rest ih =>
      subst first
      unfold CharMap.entries entriesOf at ih ⊢
      simp [ih]

theorem holds_of_spelled {lines : List String} (check : List (Nat × List Char) → Bool)
    (h : ∃ spellings, Spelled lines spellings ∧ check (entriesOf spellings) = true) :
    check (CharMap.entries lines) = true := by
  obtain ⟨spellings, spelled, h⟩ := h
  rw [spelled.entries_eq]
  exact h

/-- Whether the value that holds between two code points is the one with the given text. -/
def isSettled (low high : Nat) (text : List Char) (entries : List (Nat × List Char)) : Bool :=
  ((entries.takeWhile fun entry => entry.1 ≤ low).getLast?.any fun entry => entry.2 == text) &&
    (entries.dropWhile fun entry => entry.1 ≤ low).all fun entry => high ≤ entry.1

/-- What one pass over a table says about the characters between two changes. -/
theorem find?_of_isSettled (value : List Char → α) {lines : List String} {low high : Nat}
    {text : List Char} (h : isSettled low high text (entries lines) = true) {c : Char}
    (hlow : low ≤ c.toNat) (hhigh : c.toNat < high) :
    ∃ start ≤ low, (read value lines).find? c = some (start, value text) := by
  simp only [isSettled, Bool.and_eq_true, Option.any_eq_true] at h
  obtain ⟨⟨last, hlast, htext⟩, hafter⟩ := h
  obtain ⟨front, hfront⟩ := List.getLast?_eq_some_iff.mp hlast
  have cut := List.takeWhile_append_dropWhile (p := fun entry => decide (entry.1 ≤ low))
    (l := entries lines)
  have reached (e) (he : e ∈ front ++ [last]) : e.1 ≤ low := by
    rw [← hfront] at he
    simpa using List.mem_takeWhile_imp he
  rw [hfront, List.append_assoc, List.singleton_append] at cut
  generalize (entries lines).dropWhile (fun entry => entry.1 ≤ low) = back at cut hafter
  refine ⟨last.1, reached last (by simp), ?_⟩
  have changes : (read value lines).changes.toList =
      front.map (fun entry => (entry.1, value entry.2)) ++ (last.1, value last.2) ::
        back.map fun entry => (entry.1, value entry.2) := by
    rw [read, List.toList_toArray, ← cut]
    simp
  have lastText : last.2 = text := by simpa using htext
  rw [← lastText]
  refine find?_of_split changes ?_ ?_ ?_
  · intro e he
    obtain ⟨entry, hentry, rfl⟩ := List.mem_map.mp he
    exact (reached entry (List.mem_append_left _ hentry)).trans hlow
  · exact (reached last (by simp)).trans hlow
  · intro e he
    obtain ⟨entry, hentry, rfl⟩ := List.mem_map.mp he
    have := List.all_eq_true.mp hafter entry hentry
    simp only [decide_eq_true_eq] at this
    exact Nat.lt_of_lt_of_le hhigh this

end ObjectStorage.Text.CharMap
