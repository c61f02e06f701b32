import Mathlib.Data.List.Basic
import ObjectStorage.Dictionary
import ObjectStorage.Proofs.Text.Numerals
import ObjectStorage.Proofs.Toml.Strings
import ObjectStorage.Toml.Reader

/-!
# Documents of TOML are read back

A written document, entries and then a table under a header, is read line by line as the statements
that it was written for, and they build the table that holds all of it.
-/

namespace ObjectStorage

namespace Scan

variable {α β : Type} {scan : Scan α} {text rest : List Char} {value : α}

theorem bind_of_some (h : scan text = some (value, rest)) (next : α → Scan β) :
    (scan >>= next) text = next value rest := by
  simp [bind, StateT.bind, h]

theorem ahead_bind (next : List Char → Scan β) (text : List Char) :
    (ahead >>= next) text = next text text := rfl

theorem char?_of_ne {c : Char} (h : c ∉ text.head?) : char? c text = some (false, text) := by
  cases text with
  | nil => rfl
  | cons d text =>
      have other : d ≠ c := fun heq => h (heq ▸ rfl)
      simp [char?, other]

theorem char_cons (c : Char) (text : List Char) : char c (c :: text) = some ((), text) := by
  simp [char]

theorem takeWhile_append {accepts : Char → Bool} {taken : List Char}
    (all : ∀ c ∈ taken, accepts c = true) (stops : ∀ c ∈ text.head?, accepts c = false) :
    takeWhile accepts (taken ++ text) = some (taken, text) := by
  rw [takeWhile, List.takeWhile_append_of_pos all, List.dropWhile_append_of_pos all]
  cases text with
  | nil => simp
  | cons c text => simp [stops c rfl]

end Scan

namespace Toml

variable {text rest : List Char}

/-! ## Blanks -/

/-- A text that goes on with neither blanks, comments nor line ends. -/
def IsInk (text : List Char) : Prop :=
  ∀ c ∈ text.head?, isBlank c = false ∧ c ≠ '#' ∧ c ≠ '\n' ∧ c ≠ '\r'

theorem isInk_cons {c : Char} (h : isBlank c = false ∧ c ≠ '#' ∧ c ≠ '\n' ∧ c ≠ '\r') :
    IsInk (c :: text) := by
  rintro d ⟨⟩
  exact h

theorem skipBlanks_append {blanks : List Char} (all : ∀ c ∈ blanks, isBlank c = true)
    (stops : ∀ c ∈ text.head?, isBlank c = false) :
    skipBlanks (blanks ++ text) = some ((), text) :=
  Scan.bind_of_some (Scan.takeWhile_append all stops) _

theorem isBlank_of_mem_nil : ∀ c ∈ ([] : List Char), isBlank c = true := by simp

private theorem isBlank_of_mem_space : ∀ c ∈ [' '], isBlank c = true := by simp [isBlank]

theorem skipBlanks_of_head (stops : ∀ c ∈ text.head?, isBlank c = false) :
    skipBlanks text = some ((), text) := skipBlanks_append isBlank_of_mem_nil stops

theorem comment_of_head (h : '#' ∉ text.head?) : comment text = some ((), text) := by
  rw [comment, Scan.bind_of_some (Scan.char?_of_ne h)]
  rfl

private theorem lineEnd?_of_head (h : '\n' ∉ text.head? ∧ '\r' ∉ text.head?) :
    lineEnd? text = some (false, text) := by
  unfold lineEnd?
  split
  · exact absurd rfl h.1
  · exact absurd rfl h.2
  · rfl

theorem skipLines_of_isInk (ink : IsInk text) (fuel : Nat) :
    skipLines fuel text = some ((), text) := by
  cases fuel with
  | zero => rfl
  | succ fuel =>
      have feed : '\n' ∉ text.head? := fun h => (ink _ h).2.2.1 rfl
      have carriage : '\r' ∉ text.head? := fun h => (ink _ h).2.2.2 rfl
      rw [skipLines, Scan.bind_of_some (skipBlanks_of_head fun c hc => (ink c hc).1),
        Scan.bind_of_some (comment_of_head fun h => (ink _ h).2.1 rfl),
        Scan.bind_of_some (lineEnd?_of_head ⟨feed, carriage⟩)]
      rfl

theorem skipSpace_of_isInk (ink : IsInk text) : skipSpace text = some ((), text) :=
  skipLines_of_isInk ink _

theorem lineEnd?_feed (text : List Char) : lineEnd? ('\n' :: text) = some (true, text) := rfl

private theorem skipSpace_of_emptyLine (ink : IsInk text) :
    skipSpace ('\n' :: text) = some ((), text) := by
  have blanks : skipBlanks ('\n' :: text) = some ((), '\n' :: text) :=
    skipBlanks_of_head (by rintro c ⟨⟩; decide)
  have plain : comment ('\n' :: text) = some ((), '\n' :: text) :=
    comment_of_head (by simp)
  rw [skipSpace, Scan.ahead_bind, skipLines, Scan.bind_of_some blanks, Scan.bind_of_some plain,
    Scan.bind_of_some (lineEnd?_feed text)]
  exact skipLines_of_isInk ink _

/-! ## Keys -/

/-- A key that needs no quotes. -/
structure IsBareKey (key : String) : Prop where
  some : key.toList ≠ []
  bare : ∀ c ∈ key.toList, isBareKeyChar c = true

theorem ne_of_isBareKeyChar {c d : Char} (h : isBareKeyChar c = true)
    (other : isBareKeyChar d = false) : c ≠ d := by
  rintro rfl
  exact nomatch h.symm.trans other

theorem isBlank_of_isBareKeyChar {c : Char} (h : isBareKeyChar c = true) : isBlank c = false := by
  simp [isBlank, ne_of_isBareKeyChar h (d := ' ') (by decide),
    ne_of_isBareKeyChar h (d := '\t') (by decide)]

private theorem isBareKeyChar_of_isBlank {c : Char} (h : isBlank c = true) :
    isBareKeyChar c = false := by
  by_contra bare
  have := isBlank_of_isBareKeyChar (by simpa using bare)
  exact nomatch h.symm.trans this

theorem IsBareKey.head?_isBareKeyChar {name : String} (bare : IsBareKey name) (text : List Char) :
    ∀ c ∈ (name.toList ++ text).head?, isBareKeyChar c = true := by
  obtain ⟨first, others, shape⟩ := List.exists_cons_of_ne_nil bare.some
  intro c hc
  rw [shape] at hc
  cases hc
  exact bare.bare first (by simp [shape])

private theorem simpleKey_bare {name : String} (bare : IsBareKey name)
    (stops : ∀ c ∈ text.head?, isBareKeyChar c = false) :
    simpleKey (name.toList ++ text) = some (name, text) := by
  obtain ⟨c, others, shape⟩ := List.exists_cons_of_ne_nil bare.some
  have first : isBareKeyChar c = true := bare.bare c (by simp [shape])
  have taken := Scan.takeWhile_append bare.bare stops
  rw [Scan.takeWhile, Option.some_inj, Prod.mk.injEq] at taken
  unfold simpleKey
  split
  · next heq =>
    rw [shape] at heq
    exact absurd ((List.cons.inj heq).1 ▸ first) (by decide)
  · next heq =>
    rw [shape] at heq
    exact absurd ((List.cons.inj heq).1 ▸ first) (by decide)
  · rw [taken.1, taken.2, shape]
    simp [← shape]

theorem key_bare {name : String} (bare : IsBareKey name) {blanks : List Char}
    (all : ∀ c ∈ blanks, isBlank c = true)
    (stops : ∀ c ∈ text.head?, isBareKeyChar c = false ∧ isBlank c = false ∧ c ≠ '.') :
    key (name.toList ++ (blanks ++ text)) = some ([name], text) := by
  have start : skipBlanks (name.toList ++ (blanks ++ text)) =
      some ((), name.toList ++ (blanks ++ text)) :=
    skipBlanks_of_head fun c hc => isBlank_of_isBareKeyChar (bare.head?_isBareKeyChar _ c hc)
  have ends : ∀ c ∈ (blanks ++ text).head?, isBareKeyChar c = false := by
    intro c hc
    cases blanks with
    | nil => exact (stops c hc).1
    | cons d blanks =>
        cases hc
        exact isBareKeyChar_of_isBlank (all _ List.mem_cons_self)
  have point : '.' ∉ text.head? := fun h => (stops _ h).2.2 rfl
  have dotted (fuel : Nat) :
      dottedKey (fuel + 1) (name.toList ++ (blanks ++ text)) = some ([name], text) := by
    rw [dottedKey, Scan.bind_of_some start, Scan.bind_of_some (simpleKey_bare bare ends),
      Scan.bind_of_some (skipBlanks_append all fun d hd => (stops d hd).2.1),
      Scan.bind_of_some (Scan.char?_of_ne point)]
    rfl
  rw [key, Scan.ahead_bind, Scan.bind_of_some (dotted _)]
  rfl

/-! ## Integers -/

private theorem head?_toDigits {n : Nat} (pos : 0 < n) : (Nat.toDigits 10 n).head? ≠ some '0' := by
  induction n using Nat.strongRecOn with
  | ind n ih =>
      by_cases small : n < 10
      · have digits : ∀ n < 10, 0 < n → n.digitChar ≠ '0' := by decide
        rw [Nat.toDigits_of_lt_base small]
        simpa using digits n small pos
      · rw [Nat.toDigits_of_base_le (by omega) (by omega),
          List.head?_append_of_ne_nil _ Nat.toDigits_ne_nil]
        exact ih (n / 10) (by omega) (by omega)

private theorem numeral_toDigits (n : Nat) : numeral 10 (Nat.toDigits 10 n) = n := by
  have value := ((Integer.readDigits_ok_iff (Nat.zero_le n)).mp
    (Integer.readDigits_toDigits .tooLarge (Nat.le_refl n))).2.1
  refine (List.foldl_ext _ _ _ fun read c hc => ?_).trans value
  have := (Integer.isDigit_of_mem_toDigits hc).2
  simp [digitValue, this]

section

variable {n : Nat} {c : Char}

theorem isDigit_of_toDigits (h : c ∈ Nat.toDigits 10 n) : Integer.isDigit c = true := by
  have := Integer.isDigit_of_mem_toDigits h
  simp [Integer.isDigit, Integer.digit?, this]

theorem ne_of_toDigits {d : Char} (h : c ∈ Nat.toDigits 10 n)
    (other : d.toNat < 48 ∨ 57 < d.toNat) :
    c ≠ d := by
  rintro rfl
  have := Integer.isDigit_of_mem_toDigits h
  omega

theorem cutSign_toDigits (n : Nat) : cutSign (Nat.toDigits 10 n) = (false, Nat.toDigits 10 n) := by
  unfold cutSign
  split
  · next heq => exact absurd rfl (ne_of_toDigits (heq ▸ List.mem_cons_self) (by decide))
  · next heq => exact absurd rfl (ne_of_toDigits (heq ▸ List.mem_cons_self) (by decide))
  · rfl

private theorem looksDecimal_toDigits (n : Nat) : looksDecimal (Nat.toDigits 10 n) = true := by
  have nothing : (Nat.toDigits 10 n).dropWhile Integer.isDigit = [] :=
    List.dropWhile_eq_nil_iff.mpr fun c hc => isDigit_of_toDigits hc
  have front : (Nat.toDigits 10 n).head? ≠ some '0' ∨ (Nat.toDigits 10 n).length = 1 := by
    rcases Nat.eq_zero_or_pos n with rfl | pos
    · exact .inr (by decide)
    · exact .inl (head?_toDigits pos)
  rw [looksDecimal, cutSign_toDigits]
  simp only [nothing]
  simpa [Nat.toDigits_ne_nil] using front

private theorem decimalValue?_toDigits (n : Nat) :
    decimalValue? (withoutUnderscores (Nat.toDigits 10 n)) = some (n : Int) := by
  have whole : withoutUnderscores (Nat.toDigits 10 n) = Nat.toDigits 10 n :=
    List.filter_eq_self.mpr fun c hc => by simpa using ne_of_toDigits hc (by decide)
  have digits : (Nat.toDigits 10 n).all Integer.isDigit = true :=
    List.all_eq_true.mpr fun c hc => isDigit_of_toDigits hc
  rw [whole, decimalValue?, cutSign_toDigits]
  simp [Nat.toDigits_ne_nil, digits, numeral_toDigits]

private theorem integer?_toDigits (n : Nat) :
    integer? (Nat.toDigits 10 n) = some (some (n : Int)) := by
  have unmarked {c : Char} {digits : List Char} (heq : Nat.toDigits 10 n = '0' :: c :: digits) :
      c.toNat ≤ 57 :=
    (Integer.isDigit_of_mem_toDigits (n := n) (heq ▸ by simp)).2
  unfold integer?
  split
  · next heq => exact absurd (unmarked heq) (by decide)
  · next heq => exact absurd (unmarked heq) (by decide)
  · next heq => exact absurd (unmarked heq) (by decide)
  · rw [if_pos (looksDecimal_toDigits n), decimalValue?_toDigits]

private theorem scalarValue?_toDigits (n : Nat) :
    scalarValue? (Nat.toDigits 10 n) = some (.integer (some (n : Int))) := by
  have word {letter : Char} {letters : List Char} (h : 57 < letter.toNat) :
      Nat.toDigits 10 n ≠ letter :: letters := fun heq =>
    absurd rfl (ne_of_toDigits (heq ▸ List.mem_cons_self : letter ∈ Nat.toDigits 10 n) (.inr h))
  rw [scalarValue?, if_neg (word (by decide)), if_neg (word (by decide)), integer?_toDigits]

end

/-! ## Scalars -/

private theorem readScalar_of_plain (plain : ∀ c ∈ text, isBlank c = false ∧ endsScalar c = false)
    (rest : List Char) : readScalar false (text ++ '\n' :: rest) = (text, '\n' :: rest) := by
  induction text with
  | nil => rfl
  | cons c text ih =>
      obtain ⟨blank, ends⟩ := plain c List.mem_cons_self
      rw [List.cons_append, readScalar, ih fun d hd => plain d (List.mem_cons_of_mem _ hd)]
      simp [blank, ends]

private theorem readScalar_toDigits (n : Nat) (rest : List Char) :
    readScalar false (Nat.toDigits 10 n ++ '\n' :: rest) = (Nat.toDigits 10 n, '\n' :: rest) := by
  have digits : ∀ n ≤ 57, 48 ≤ n →
      isBlank (Char.ofNat n) = false ∧ endsScalar (Char.ofNat n) = false := by decide
  refine readScalar_of_plain (fun c hc => ?_) rest
  obtain ⟨low, high⟩ := Integer.isDigit_of_mem_toDigits hc
  have := digits c.toNat high low
  rwa [Char.ofNat_toNat] at this

/-- What a document holds where the scalar is written. -/
def Scalar.value : Scalar → Toml
  | .string text => .string text
  | .integer value => .integer (some value.toNat)

private theorem value_writeString (text : String) (fuel depth : Nat) (rest : List Char) :
    value (fuel + 1) depth (writeString text.toList ++ '\n' :: rest) =
      some (.string text, '\n' :: rest) := by
  have ends : ∀ c ∈ ('\n' :: rest).head?, c ≠ '"' ∧ c ≠ '\x27' := by
    rintro c ⟨⟩
    decide
  have read := readQuoted?_writeString text.toList ends
  have whole : quoted (writeString text.toList ++ '\n' :: rest) =
      some (.string text, '\n' :: rest) := by
    simp [quoted, read]
  obtain ⟨first, others, shape, delimiter⟩ := writeString_cons text.toList
  rw [shape, List.cons_append] at whole ⊢
  rw [value, Scan.ahead_bind]
  rcases delimiter with rfl | rfl
  · exact whole
  · exact whole

private theorem value_toDigits (n fuel depth : Nat) (rest : List Char) :
    value (fuel + 1) depth (Nat.toDigits 10 n ++ '\n' :: rest) =
      some (.integer (some n), '\n' :: rest) := by
  have read : scalar (Nat.toDigits 10 n ++ '\n' :: rest) =
      some (.integer (some n), '\n' :: rest) := by
    have taken : scalarText (Nat.toDigits 10 n ++ '\n' :: rest) =
        some (Nat.toDigits 10 n, '\n' :: rest) :=
      congrArg some (readScalar_toDigits n rest)
    rw [scalar, Scan.bind_of_some taken, scalarValue?_toDigits]
    rfl
  obtain ⟨c, others, shape⟩ :=
    List.exists_cons_of_ne_nil (Nat.toDigits_ne_nil (n := n) (b := 10))
  have digit (mark : Char) (h : 57 < mark.toNat ∨ mark.toNat < 48) : c ≠ mark :=
    ne_of_toDigits (n := n) (shape ▸ List.mem_cons_self) h.symm
  rw [shape, List.cons_append] at read ⊢
  rw [value, Scan.ahead_bind]
  simp [digit '"' (by decide), digit '\x27' (by decide), digit '[' (by decide),
    digit '\x7b' (by decide), read]

theorem value_scalar (scalar : Scalar) (fuel depth : Nat) (rest : List Char) :
    value (fuel + 1) depth (scalar.text ++ '\n' :: rest) = some (scalar.value, '\n' :: rest) := by
  cases scalar with
  | string text => exact value_writeString text fuel depth rest
  | integer n => exact value_toDigits n.toNat fuel depth rest

private theorem Scalar.text_cons (scalar : Scalar) :
    ∃ first others, scalar.text = first :: others ∧ isBlank first = false := by
  cases scalar with
  | string text =>
      obtain ⟨first, others, shape, rfl | rfl⟩ := writeString_cons text.toList
      · exact ⟨_, others, shape, by decide⟩
      · exact ⟨_, others, shape, by decide⟩
  | integer n =>
      obtain ⟨first, others, shape⟩ :=
        List.exists_cons_of_ne_nil (Nat.toDigits_ne_nil (n := n.toNat) (b := 10))
      have digit : first ∈ Nat.toDigits 10 n.toNat := shape ▸ List.mem_cons_self
      refine ⟨first, others, shape, ?_⟩
      simp [isBlank, ne_of_toDigits digit (d := ' ') (by decide),
        ne_of_toDigits digit (d := '\t') (by decide)]

/-! ## Lines -/

private theorem entry_line {name : String} (bare : IsBareKey name) (scalar : Scalar)
    (rest : List Char) : entry (entryLine name scalar ++ rest) =
      some (.entry [name] scalar.value, '\n' :: rest) := by
  have shape : entryLine name scalar ++ rest =
      name.toList ++ ([' '] ++ '=' :: ([' '] ++ (scalar.text ++ '\n' :: rest))) := by
    simp [entryLine]
  have path : key (name.toList ++ ([' '] ++ '=' :: ([' '] ++ (scalar.text ++ '\n' :: rest)))) =
      some ([name], '=' :: ([' '] ++ (scalar.text ++ '\n' :: rest))) := by
    refine key_bare bare isBlank_of_mem_space ?_
    rintro c ⟨⟩
    decide
  have blank : skipBlanks ([' '] ++ (scalar.text ++ '\n' :: rest)) =
      some ((), scalar.text ++ '\n' :: rest) := by
    obtain ⟨first, others, written, ink⟩ := scalar.text_cons
    refine skipBlanks_append isBlank_of_mem_space ?_
    rw [written]
    rintro c ⟨⟩
    exact ink
  rw [shape, entry, Scan.bind_of_some path, Scan.bind_of_some (Scan.char_cons _ _),
    Scan.bind_of_some blank, Scan.ahead_bind, Scan.bind_of_some (value_scalar scalar _ _ rest)]
  rfl

def headerLine (name : String) : List Char := '[' :: name.toList ++ [']', '\n']

private theorem header_line {name : String} (bare : IsBareKey name) (rest : List Char) :
    header (headerLine name ++ rest) = some (.header [name], '\n' :: rest) := by
  have shape : headerLine name ++ rest = '[' :: (name.toList ++ ([] ++ ']' :: '\n' :: rest)) := by
    simp [headerLine]
  have path : key (name.toList ++ ([] ++ ']' :: '\n' :: rest)) =
      some ([name], ']' :: '\n' :: rest) := by
    refine key_bare bare isBlank_of_mem_nil ?_
    rintro c ⟨⟩
    decide
  have single : '[' ∉ (name.toList ++ ([] ++ ']' :: '\n' :: rest)).head? := fun h =>
    absurd (bare.head?_isBareKeyChar _ _ h) (by decide)
  rw [shape, header, Scan.bind_of_some (Scan.char_cons _ _),
    Scan.bind_of_some (Scan.char?_of_ne single)]
  simp only [Bool.false_eq_true, if_false]
  rw [Scan.bind_of_some path, Scan.bind_of_some (Scan.char_cons _ _)]
  rfl

/-- The text is read as the statements, with as much fuel as it has characters and one more. -/
def IsRead (text : List Char) (read : List Statement) : Prop :=
  ∀ fuel, text.length < fuel → statements fuel text = some (read, [])

theorem isRead_nil : IsRead [] [] := by
  intro fuel h
  obtain ⟨fuel, rfl⟩ := Nat.exists_eq_succ_of_ne_zero (Nat.ne_of_gt h)
  rfl

section

variable {statement : Statement} {list : List Statement} {fuel : Nat}

private theorem statements_after (statement : Statement) (h : rest.length < fuel)
    (after : IsRead rest list) :
    (do
      skipBlanks
      comment
      let ended ← lineEnd?
      match ← Scan.ahead with
      | [] => return [statement]
      | _ =>
          if ended then
            let rest ← statements fuel
            return statement :: rest
          else Scan.fails : Scan (List Statement)) ('\n' :: rest) =
      some (statement :: list, []) := by
  have blanks : skipBlanks ('\n' :: rest) = some ((), '\n' :: rest) :=
    skipBlanks_of_head (by rintro c ⟨⟩; decide)
  have plain : comment ('\n' :: rest) = some ((), '\n' :: rest) := comment_of_head (by simp)
  have read := after fuel h
  rw [Scan.bind_of_some blanks, Scan.bind_of_some plain,
    Scan.bind_of_some (lineEnd?_feed rest), Scan.ahead_bind]
  cases rest with
  | nil =>
      have nothing := (isRead_nil fuel h).symm.trans read
      rw [Option.some_inj, Prod.mk.injEq] at nothing
      rw [← nothing.1]
      rfl
  | cons c rest =>
      simp only [if_true]
      rw [Scan.bind_of_some read]
      rfl

theorem isRead_line {c : Char} (ink : IsInk (c :: text))
    (shorter : rest.length < (c :: text).length)
    (line : (if c = '[' then header else entry) (c :: text) = some (statement, '\n' :: rest))
    (after : IsRead rest list) : IsRead (c :: text) (statement :: list) := by
  intro fuel h
  obtain ⟨fuel, rfl⟩ := Nat.exists_eq_succ_of_ne_zero (Nat.ne_zero_of_lt h)
  -- A line takes up characters, so the fuel that is left is enough for what follows it.
  have fewer : rest.length < fuel := by omega
  have others := statements_after statement fewer after
  rw [statements, Scan.bind_of_some (skipSpace_of_isInk ink), Scan.ahead_bind]
  simp only
  split at line
  · next bracket =>
    rw [if_pos bracket, Scan.bind_of_some line]
    exact others
  · next bracket =>
    rw [if_neg bracket, Scan.bind_of_some line]
    exact others

end

private theorem isRead_emptyLine {list : List Statement} {c : Char} (ink : IsInk (c :: text))
    (h : IsRead (c :: text) list) : IsRead ('\n' :: c :: text) list := by
  intro fuel hfuel
  have read := h fuel (Nat.lt_of_succ_lt hfuel)
  obtain ⟨fuel, rfl⟩ := Nat.exists_eq_succ_of_ne_zero (Nat.ne_zero_of_lt hfuel)
  rw [statements, Scan.bind_of_some (skipSpace_of_isInk ink)] at read
  rw [statements, Scan.bind_of_some (skipSpace_of_emptyLine ink)]
  exact read

def entryStatement (entry : String × Scalar) : Statement := .entry [entry.1] entry.2.value

private theorem isRead_entryLine {name : String} (bare : IsBareKey name) (scalar : Scalar)
    {list : List Statement} (after : IsRead rest list) :
    IsRead (entryLine name scalar ++ rest) (entryStatement (name, scalar) :: list) := by
  obtain ⟨c, others, shape⟩ := List.exists_cons_of_ne_nil bare.some
  have first : isBareKeyChar c = true := bare.bare c (by simp [shape])
  have whole : entryLine name scalar ++ rest =
      c :: (others ++ ' ' :: '=' :: ' ' :: (scalar.text ++ '\n' :: rest)) := by
    simp [entryLine, shape]
  have line := entry_line bare scalar rest
  have ink : isBlank c = false ∧ c ≠ '#' ∧ c ≠ '\n' ∧ c ≠ '\r' :=
    ⟨isBlank_of_isBareKeyChar first, ne_of_isBareKeyChar first (by decide),
      ne_of_isBareKeyChar first (by decide), ne_of_isBareKeyChar first (by decide)⟩
  rw [whole] at line ⊢
  refine isRead_line (isInk_cons ink) ?_ ?_ after
  · simp
    omega
  · rw [if_neg (ne_of_isBareKeyChar first (by decide))]
    exact line

private theorem isRead_headerLine {name : String} (bare : IsBareKey name) {list : List Statement}
    (after : IsRead rest list) : IsRead (headerLine name ++ rest) (.header [name] :: list) := by
  have line := header_line bare rest
  have whole : headerLine name ++ rest = '[' :: (name.toList ++ ']' :: '\n' :: rest) := by
    simp [headerLine]
  rw [whole] at line ⊢
  refine isRead_line (isInk_cons (by decide)) ?_ line after
  simp
  omega

private theorem isRead_entryLines {entries : List (String × Scalar)}
    (bare : ∀ entry ∈ entries, IsBareKey entry.1) {list : List Statement}
    (after : IsRead rest list) :
    IsRead (entryLines entries ++ rest) (entries.map entryStatement ++ list) := by
  induction entries with
  | nil => exact after
  | cons entry entries ih =>
      have lines := ih fun other h => bare other (List.mem_cons_of_mem _ h)
      rw [entryLines, List.flatMap_cons, List.append_assoc]
      exact isRead_entryLine (bare entry List.mem_cons_self) entry.2 lines

/-! ## Documents -/

variable {entries inner : List (String × Scalar)} {name : String}

theorem isRead_document (bareEntries : ∀ entry ∈ entries, IsBareKey entry.1)
    (bareName : IsBareKey name) (bareInner : ∀ entry ∈ inner, IsBareKey entry.1) :
    IsRead (document entries name inner)
      (entries.map entryStatement ++ .header [name] :: inner.map entryStatement) := by
  have table : IsRead (headerLine name ++ entryLines inner)
      (.header [name] :: inner.map entryStatement) := by
    refine isRead_headerLine bareName ?_
    simpa using isRead_entryLines bareInner isRead_nil
  have shape : document entries name inner = entryLines entries ++
      ((if entries.isEmpty then [] else ['\n']) ++ (headerLine name ++ entryLines inner)) := by
    simp [document, headerLine]
  rw [shape]
  refine isRead_entryLines bareEntries ?_
  split
  · exact table
  · have whole : headerLine name ++ entryLines inner =
        '[' :: (name.toList ++ ']' :: '\n' :: entryLines inner) := by simp [headerLine]
    rw [whole] at table ⊢
    exact isRead_emptyLine (isInk_cons (by decide)) table

private theorem withoutMark_document (bareEntries : ∀ entry ∈ entries, IsBareKey entry.1) :
    withoutMark (document entries name inner) = document entries name inner := by
  have unmarked {c : Char} {others : List Char} (h : c ≠ '\uFEFF') :
      withoutMark (c :: others) = c :: others := by
    unfold withoutMark
    split
    · next heq => exact absurd (List.cons.inj heq).1 h
    · rfl
  cases entries with
  | nil => exact unmarked (by decide)
  | cons entry others =>
      have bare := bareEntries entry List.mem_cons_self
      obtain ⟨c, chars, shape⟩ := List.exists_cons_of_ne_nil bare.some
      have first : isBareKeyChar c = true := bare.bare c (by simp [shape])
      have whole : ∃ rest, document (entry :: others) name inner = c :: rest := by
        simp [document, entryLines, entryLine, shape]
      obtain ⟨rest, whole⟩ := whole
      rw [whole]
      exact unmarked (ne_of_isBareKeyChar first (by decide))

theorem parse?_document (bareEntries : ∀ entry ∈ entries, IsBareKey entry.1)
    (bareName : IsBareKey name) (bareInner : ∀ entry ∈ inner, IsBareKey entry.1) :
    parse? (String.ofList (document entries name inner)) =
      ofStatements? (entries.map entryStatement ++ .header [name] :: inner.map entryStatement) := by
  have read := isRead_document bareEntries bareName bareInner _ (Nat.lt_succ_self _)
  have whole : (statements ((document entries name inner).length + 1)).run?
      (document entries name inner) =
        some (entries.map entryStatement ++ .header [name] :: inner.map entryStatement) := by
    rw [Scan.run?, read]
  rw [parse?, String.toList_ofList, withoutMark_document bareEntries]
  simp only [whole, Option.bind_eq_bind, Option.bind_some]

/-! ## Tables -/

def held (entry : String × Scalar) : String × Toml := (entry.1, entry.2.value)

theorem replaceEntry_of_not_mem {front : Entries} {key : String}
    (h : key ∉ front.map Prod.fst) (value : Toml) (back : Entries) :
    replaceEntry key value (front ++ back) = front ++ replaceEntry key value back := by
  induction front with
  | nil => rfl
  | cons entry front ih =>
      rw [List.map_cons, List.mem_cons, not_or] at h
      rw [List.cons_append, replaceEntry, if_neg (Ne.symm h.1), ih h.2, List.cons_append]

theorem addDotted_single (holder : Table) {key : String}
    (fresh : key ∉ holder.entries.map Prod.fst) (value : Toml) :
    addDotted [key] value holder =
      some { holder with entries := holder.entries ++ [(key, value)] } := by
  have absent : holder.lookup? key = none := Dictionary.lookup_of_not_mem fresh
  have put := replaceEntry_of_not_mem fresh value []
  rw [List.append_nil] at put
  simp [addDotted, descend, addEntry, absent, Table.put, put, replaceEntry]

theorem fresh_of_distinct {made : List String} {key : String} {keys : List String}
    (distinct : (made ++ key :: keys).Nodup) :
    key ∉ made ∧ ((made ++ [key]) ++ keys).Nodup := by
  refine ⟨fun h => ?_, by simpa using distinct⟩
  exact (List.nodup_append.mp distinct).2.2 key h key List.mem_cons_self rfl

private theorem build_entries {holder : Table} {entries : List (String × Scalar)}
    (distinct : (holder.entries.map Prod.fst ++ entries.map Prod.fst).Nodup)
    (rest : List Statement) :
    build [] holder (entries.map entryStatement ++ rest) =
      build [] { holder with entries := holder.entries ++ entries.map held } rest := by
  induction entries generalizing holder with
  | nil => simp
  | cons entry entries ih =>
      obtain ⟨fresh, others⟩ := fresh_of_distinct distinct
      have added := addDotted_single holder fresh entry.2.value
      rw [List.map_cons, List.cons_append, entryStatement, build, descend, added]
      simp only [Option.bind_eq_bind, Option.bind_some]
      rw [ih (by simpa using others)]
      simp [held]

private theorem build_headed {origin : Origin} {front made : Entries}
    (absent : name ∉ front.map Prod.fst)
    (distinct : (made.map Prod.fst ++ inner.map Prod.fst).Nodup) :
    build [name] ⟨origin, front ++ [(name, .table .header made)]⟩ (inner.map entryStatement) =
      some ⟨origin, front ++ [(name, .table .header (made ++ inner.map held))]⟩ := by
  induction inner generalizing made with
  | nil => simp [build]
  | cons entry inner ih =>
      obtain ⟨fresh, others⟩ := fresh_of_distinct distinct
      have added := addDotted_single ⟨.header, made⟩ fresh entry.2.value
      have found : Table.lookup? ⟨origin, front ++ [(name, .table .header made)]⟩ name =
          some (.table .header made) := by
        simp [Table.lookup?, List.lookup_append, Dictionary.lookup_of_not_mem absent]
      have put (value : Toml) : Table.put ⟨origin, front ++ [(name, .table .header made)]⟩ name
          value = ⟨origin, front ++ [(name, value)]⟩ := by
        simp [Table.put, replaceEntry_of_not_mem absent, replaceEntry]
      rw [List.map_cons, entryStatement, build, descend]
      simp only [found, descend, added, Option.bind_eq_bind, Option.bind_some, put, ofTable]
      simp only [reduceCtorEq, Bool.false_eq_true, false_and, or_self, if_false, Option.pure_def,
        Option.bind_some]
      rw [ih (by simpa using others)]
      simp [held]

theorem parse?_written (bareEntries : ∀ entry ∈ entries, IsBareKey entry.1)
    (bareName : IsBareKey name) (bareInner : ∀ entry ∈ inner, IsBareKey entry.1)
    (distinct : (entries.map Prod.fst ++ [name]).Nodup)
    (distinctInner : (inner.map Prod.fst).Nodup) :
    parse? (String.ofList (document entries name inner)) =
      some ⟨.header, entries.map held ++ [(name, .table .header (inner.map held))]⟩ := by
  have absent : name ∉ (entries.map held).map Prod.fst := by
    have := (fresh_of_distinct distinct).1
    simpa [held, Function.comp_def] using this
  have headed : headTable name ⟨.header, entries.map held⟩ =
      some ⟨.header, entries.map held ++ [(name, .table .header [])]⟩ := by
    have put := replaceEntry_of_not_mem absent (.table .header []) []
    rw [List.append_nil] at put
    simp [headTable, Table.lookup?, Dictionary.lookup_of_not_mem absent, Table.put, put, replaceEntry]
  have alone : (entries.map Prod.fst).Nodup := (List.nodup_append.mp distinct).1
  rw [parse?_document bareEntries bareName bareInner, ofStatements?,
    build_entries (by simpa using alone), List.nil_append, build]
  simp only [List.getLast?_singleton, Option.bind_eq_bind, Option.bind_some,
    List.dropLast_singleton, descend, headed]
  exact build_headed absent (by simpa using distinctInner)

end Toml

end ObjectStorage
