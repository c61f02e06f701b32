import ObjectStorage.Proofs.Text.Trimmed
import ObjectStorage.Text.Blank
import ObjectStorage.Text.Integer

/-!
# Numerals and first words

An unsigned number is read off a text exactly if the text is a numeral of it, and the first word of
a line is what stands between its first blanks.
-/

namespace ObjectStorage

namespace Integer

variable {limit read n : Nat} {beyond : Fault} {text digits : List Char}

def IsDigit (c : Char) : Prop := 48 ≤ c.toNat ∧ c.toNat ≤ 57

def valueFrom (read : Nat) (digits : List Char) : Nat :=
  digits.foldl (fun n c => 10 * n + (c.toNat - 48)) read

/-- Decimal digits, at least one, which a plus sign may precede. -/
def IsNumeral (text : List Char) (n : Nat) : Prop :=
  ∃ digits, (text = digits ∨ text = '+' :: digits) ∧ digits ≠ [] ∧
    (∀ c ∈ digits, IsDigit c) ∧ valueFrom 0 digits = n

theorem digit?_eq_some_iff {c : Char} {d : Nat} :
    digit? c = some d ↔ IsDigit c ∧ c.toNat - 48 = d := by
  simp [digit?, IsDigit]

theorem digit?_eq_none_iff {c : Char} : digit? c = none ↔ ¬IsDigit c := by
  simp [digit?, IsDigit]

private theorem le_valueFrom (read : Nat) (digits : List Char) : read ≤ valueFrom read digits := by
  induction digits generalizing read with
  | nil => exact Nat.le_refl read
  | cons c rest ih =>
      have := ih (10 * read + (c.toNat - 48))
      simp only [valueFrom, List.foldl_cons] at this ⊢
      omega

theorem readDigits_ok_iff (within : read ≤ limit) :
    readDigits limit beyond read digits = .ok n ↔
      (∀ c ∈ digits, IsDigit c) ∧ valueFrom read digits = n ∧ n ≤ limit := by
  induction digits generalizing read with
  | nil =>
      simp only [readDigits, valueFrom, List.foldl_nil, Except.ok.injEq, List.not_mem_nil,
        false_implies, implies_true, true_and]
      omega
  | cons c rest ih =>
      rw [readDigits, List.forall_mem_cons]
      cases digit : digit? c with
      | none => simp [digit?_eq_none_iff.mp digit]
      | some d =>
          obtain ⟨isDigit, rfl⟩ := digit?_eq_some_iff.mp digit
          have value : valueFrom read (c :: rest) =
              valueFrom (10 * read + (c.toNat - 48)) rest := rfl
          dsimp only
          split
          · next beyond =>
            -- The value only grows with further digits.
            have := le_valueFrom (10 * read + (c.toNat - 48)) rest
            simp only [reduceCtorEq, false_iff]
            rintro ⟨-, rfl, bound⟩
            omega
          · next small =>
            rw [ih (Nat.le_of_not_lt small), value]
            simp [isDigit]

theorem readNonempty_ok_iff :
    readNonempty limit beyond digits = .ok n ↔
      digits ≠ [] ∧ (∀ c ∈ digits, IsDigit c) ∧ valueFrom 0 digits = n ∧ n ≤ limit := by
  cases digits with
  | nil => simp [readNonempty]
  | cons c rest =>
      rw [readNonempty, readDigits_ok_iff (Nat.zero_le limit)]
      · simp
      · simp

theorem not_isDigit_plus : ¬IsDigit '+' := by
  rintro ⟨low, -⟩
  exact absurd low (by decide)

theorem readUnsigned_ok_iff :
    readUnsigned limit text = .ok n ↔ IsNumeral text n ∧ n ≤ limit := by
  constructor
  · intro h
    unfold readUnsigned at h
    split at h
    · next digits =>
      obtain ⟨some, all, value, bound⟩ := readNonempty_ok_iff.mp h
      exact ⟨⟨digits, .inr rfl, some, all, value⟩, bound⟩
    · obtain ⟨some, all, value, bound⟩ := readNonempty_ok_iff.mp h
      exact ⟨⟨text, .inl rfl, some, all, value⟩, bound⟩
  · rintro ⟨⟨digits, rfl | rfl, some, all, value⟩, bound⟩
    · have read : readNonempty limit .tooLarge text = .ok n :=
        readNonempty_ok_iff.mpr ⟨some, all, value, bound⟩
      unfold readUnsigned
      split
      · exact absurd (all '+' List.mem_cons_self) not_isDigit_plus
      · exact read
    · exact readNonempty_ok_iff.mpr ⟨some, all, value, bound⟩

end Integer

namespace Text

/-- The text begins with the word, apart from blanks before it. -/
structure IsFirstWord (text word : List Char) : Prop where
  between : ∃ before after, text = before ++ word ++ after ∧ (∀ c ∈ before, isBlank c = true) ∧
    ∀ c ∈ after.head?, isBlank c = true
  unbroken : ∀ c ∈ word, isBlank c = false
  nonempty : word ≠ []

theorem isFirstWord_firstWord {line : String} (some : (firstWord line).toList ≠ []) :
    IsFirstWord line.toList (firstWord line).toList := by
  rw [firstWord, String.toList_ofList] at some ⊢
  generalize hrest : line.toList.dropWhile isBlank = rest at some ⊢
  have keeps : ∀ c ∈ (rest.dropWhile fun c => !isBlank c).head?, isBlank c = true := by
    intro c hc
    simpa using head?_dropWhile (fun c => !isBlank c) rest c hc
  refine ⟨⟨line.toList.takeWhile isBlank, rest.dropWhile fun c => !isBlank c, ?_,
    fun c => List.mem_takeWhile_imp, keeps⟩, ?_, some⟩
  · rw [List.append_assoc, List.takeWhile_append_dropWhile, ← hrest,
      List.takeWhile_append_dropWhile]
  · intro c hc
    simpa using List.mem_takeWhile_imp hc

theorem IsFirstWord.eq_firstWord {line : String} {word : List Char}
    (h : IsFirstWord line.toList word) : (firstWord line).toList = word := by
  obtain ⟨⟨before, after, shape, blank, ends⟩, unbroken, some⟩ := h
  obtain ⟨c, rest, rfl⟩ := List.exists_cons_of_ne_nil some
  have first : isBlank c = false := unbroken c List.mem_cons_self
  have kept : ∀ d ∈ c :: rest, (!isBlank d) = true := by
    intro d hd
    simp [unbroken d hd]
  have nothing : after.takeWhile (fun c => !isBlank c) = [] := by
    cases after with
    | nil => rfl
    | cons d others => simp [ends d rfl]
  rw [firstWord, String.toList_ofList, shape, List.append_assoc,
    List.dropWhile_append_of_pos blank, List.cons_append,
    List.dropWhile_cons_of_neg (by simp [first]), ← List.cons_append,
    List.takeWhile_append_of_pos kept, nothing, List.append_nil]

end Text

end ObjectStorage
