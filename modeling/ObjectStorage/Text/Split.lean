/-!
# Splitting, joining and trimming

Texts are cut at a separator character into pieces; `join_split` and `split_join` say that cutting
and joining undo each other.
-/

namespace ObjectStorage.Text

/-- The pieces between the separators, empty ones included; never an empty list. -/
def split (separator : Char) : List Char → List (List Char)
  | [] => [[]]
  | c :: rest =>
      if c = separator then [] :: split separator rest
      else match split separator rest with
        | [] => [[c]]
        | piece :: pieces => (c :: piece) :: pieces

def join (separator : Char) : List (List Char) → List Char
  | [] => []
  | [piece] => piece
  | piece :: next :: pieces => piece ++ separator :: join separator (next :: pieces)

/-- What stands before and after the first separator. -/
def cut? (separator : Char) : List Char → Option (List Char × List Char)
  | [] => none
  | c :: rest =>
      if c = separator then some ([], rest)
      else match cut? separator rest with
        | none => none
        | some (before, after) => some (c :: before, after)

/-- What stands before and after the last separator. -/
def cutLast? (separator : Char) (text : List Char) : Option (List Char × List Char) :=
  match cut? separator text.reverse with
  | none => none
  | some (after, before) => some (before.reverse, after.reverse)

def trimStart (drop : Char → Bool) (text : List Char) : List Char := text.dropWhile drop

def trimEnd (drop : Char → Bool) (text : List Char) : List Char :=
  (text.reverse.dropWhile drop).reverse

def trim (drop : Char → Bool) (text : List Char) : List Char := trimEnd drop (trimStart drop text)

/-- The rest of the text after the given beginning. -/
def after? : List Char → List Char → Option (List Char)
  | [], text => some text
  | _ :: _, [] => none
  | c :: beginning, d :: text => if c = d then after? beginning text else none

/-! ## On strings -/

def splitString (separator : Char) (text : String) : List String :=
  (split separator text.toList).map String.ofList

def trimString (drop : Char → Bool) (text : String) : String :=
  String.ofList (trim drop text.toList)

/-! ## Laws -/

theorem split_ne_nil (separator : Char) (text : List Char) : split separator text ≠ [] := by
  cases text with
  | nil => simp [split]
  | cons c rest =>
      simp only [split]
      split
      · simp
      · split <;> simp

theorem join_cons_cons (separator c : Char) (piece : List Char) (pieces : List (List Char)) :
    join separator ((c :: piece) :: pieces) = c :: join separator (piece :: pieces) := by
  cases pieces <;> simp [join]

@[simp] theorem join_split (separator : Char) (text : List Char) :
    join separator (split separator text) = text := by
  induction text with
  | nil => rfl
  | cons c rest ih =>
      simp only [split]
      split
      · next h =>
        cases hrest : split separator rest with
        | nil => exact absurd hrest (split_ne_nil separator rest)
        | cons piece pieces =>
            rw [hrest] at ih
            simp [join, ih, h]
      · split
        · next hrest => exact absurd hrest (split_ne_nil separator rest)
        · next piece pieces hrest => rw [join_cons_cons, ← hrest, ih]

theorem split_of_not_mem {separator : Char} {text : List Char} (h : separator ∉ text) :
    split separator text = [text] := by
  induction text with
  | nil => rfl
  | cons c rest ih =>
      rw [List.mem_cons, not_or] at h
      simp [split, Ne.symm h.1, ih h.2]

theorem split_append_separator {separator : Char} {piece : List Char} (h : separator ∉ piece)
    (rest : List Char) :
    split separator (piece ++ separator :: rest) = piece :: split separator rest := by
  induction piece with
  | nil => simp [split]
  | cons c piece ih =>
      rw [List.mem_cons, not_or] at h
      simp [split, Ne.symm h.1, ih h.2]

theorem split_append (separator : Char) (first second : List Char) :
    split separator (first ++ separator :: second) =
      split separator first ++ split separator second := by
  induction first with
  | nil => simp [split]
  | cons c rest ih =>
      simp only [List.cons_append, split, ih]
      split
      · rfl
      · cases h : split separator rest with
        | nil => exact absurd h (split_ne_nil separator rest)
        | cons piece pieces => rfl

theorem split_join {separator : Char} {pieces : List (List Char)} (hne : pieces ≠ [])
    (h : ∀ piece ∈ pieces, separator ∉ piece) : split separator (join separator pieces) = pieces := by
  induction pieces with
  | nil => exact absurd rfl hne
  | cons piece rest ih =>
      cases rest with
      | nil => exact split_of_not_mem (h piece List.mem_cons_self)
      | cons next rest =>
          rw [join, split_append_separator (h piece List.mem_cons_self),
            ih (by simp) fun p hp => h p (List.mem_cons_of_mem _ hp)]

theorem not_mem_of_mem_split {separator : Char} {text piece : List Char}
    (h : piece ∈ split separator text) : separator ∉ piece := by
  induction text generalizing piece with
  | nil => simp_all [split]
  | cons c rest ih =>
      simp only [split] at h
      split at h
      · rcases List.mem_cons.mp h with rfl | h
        · simp
        · exact ih h
      · next hc =>
        split at h
        · next hrest => exact absurd hrest (split_ne_nil separator rest)
        · next first others hrest =>
          rcases List.mem_cons.mp h with rfl | h
          · simp only [List.mem_cons, not_or]
            exact ⟨Ne.symm hc, ih (hrest ▸ List.mem_cons_self)⟩
          · exact ih (hrest ▸ List.mem_cons_of_mem _ h)

theorem mem_of_mem_split {separator c : Char} {text piece : List Char}
    (h : piece ∈ split separator text) (hc : c ∈ piece) : c ∈ text := by
  induction text generalizing piece with
  | nil => simp_all [split]
  | cons d rest ih =>
      simp only [split] at h
      split at h
      · rcases List.mem_cons.mp h with rfl | h
        · exact nomatch hc
        · exact List.mem_cons_of_mem _ (ih h hc)
      · split at h
        · next hrest => exact absurd hrest (split_ne_nil separator rest)
        · next first others hrest =>
          rcases List.mem_cons.mp h with rfl | h
          · rcases List.mem_cons.mp hc with rfl | hc
            · exact List.mem_cons_self
            · exact List.mem_cons_of_mem _ (ih (hrest ▸ List.mem_cons_self) hc)
          · exact List.mem_cons_of_mem _ (ih (hrest ▸ List.mem_cons_of_mem _ h) hc)

theorem cut?_append {separator : Char} {before : List Char} (h : separator ∉ before)
    (after : List Char) : cut? separator (before ++ separator :: after) = some (before, after) := by
  induction before with
  | nil => simp [cut?]
  | cons c before ih =>
      rw [List.mem_cons, not_or] at h
      simp [cut?, Ne.symm h.1, ih h.2]

theorem cut?_eq_none {separator : Char} {text : List Char} (h : separator ∉ text) :
    cut? separator text = none := by
  induction text with
  | nil => rfl
  | cons c rest ih =>
      rw [List.mem_cons, not_or] at h
      simp [cut?, Ne.symm h.1, ih h.2]

end ObjectStorage.Text
