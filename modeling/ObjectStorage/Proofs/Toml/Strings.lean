import Mathlib.Data.List.TakeWhile
import ObjectStorage.Toml.Writer

/-!
# Strings of TOML are read back

A string is written in one of five forms, and whichever the content calls for, reading it gives the
content and what follows.  Between quotes this is so for each character, between three delimiters
because never three of them stand in a row before the closing.
-/

namespace ObjectStorage.Toml

variable {delimiter : Char} {text rest : List Char}

/-! ## Closing delimiters -/

private theorem closing_of_few {c : Char} {row : Nat} (few : row ≤ 1) (other : c ≠ delimiter)
    (text : List Char) : closing delimiter (List.replicate row delimiter ++ c :: text) = none := by
  match row, few with
  | 0, _ => cases text <;> simp [closing, other]
  | 1, _ => simp [closing, other]

theorem closing_of_many {row : Nat} (most : row ≤ 2)
    (ends : ∀ c ∈ rest.head?, c ≠ delimiter) :
    closing delimiter (List.replicate row delimiter ++ delimiter :: delimiter :: rest) =
      some (List.replicate row delimiter, rest) := by
  cases rest with
  | nil =>
      match row, most with
      | 0, _ => simp [closing]
      | 1, _ => simp [closing]
      | 2, _ => simp [closing]
  | cons c rest =>
      have other : c ≠ delimiter := ends c rfl
      match row, most with
      | 0, _ => cases rest <;> simp [closing, other]
      | 1, _ => simp [closing, other]
      | 2, _ => simp [closing]

/-- The text begins with a row of the delimiter, and is no more than that or goes on otherwise. -/
inductive Leads (delimiter : Char) (row : Nat) : List Char → Prop
  | all : Leads delimiter row (List.replicate row delimiter)
  | other {c : Char} (ne : c ≠ delimiter) (text : List Char) :
      Leads delimiter row (List.replicate row delimiter ++ c :: text)

theorem Leads.cons {row : Nat} (h : Leads delimiter row text) :
    Leads delimiter (row + 1) (delimiter :: text) := by
  cases h with
  | all => exact .all
  | other ne text => exact .other ne text

theorem leads_of_ne {c : Char} (ne : c ≠ delimiter) (text : List Char) :
    Leads delimiter 0 (c :: text) := .other ne text

/-- What a reader gives for a character and then for the text after it. -/
def keep (c : Char) (read : Option (List Char × List Char)) : Option (List Char × List Char) :=
  read.map fun read => (c :: read.1, read.2)

/-- The form of a reader between three delimiters where it comes upon one of them. -/
structure Stops (delimiter : Char) (read : List Char → Option (List Char × List Char)) : Prop where
  closed : ∀ text result, closing delimiter text = some result →
    read (delimiter :: text) = some result
  opened : ∀ text, closing delimiter text = none →
    read (delimiter :: text) = keep delimiter (read text)

/-- A delimiter before fewer than two others is content, also where the string ends after them. -/
theorem Stops.read_cons_delimiter {read : List Char → Option (List Char × List Char)}
    (stops : Stops delimiter read) {row : Nat} {written : List Char}
    (leads : Leads delimiter row written) (few : row ≤ 1)
    (whole : written = List.replicate row delimiter → text = List.replicate row delimiter)
    (ends : ∀ c ∈ rest.head?, c ≠ delimiter)
    (after : read (written ++ delimiter :: delimiter :: delimiter :: rest) = some (text, rest)) :
    read (delimiter :: (written ++ delimiter :: delimiter :: delimiter :: rest)) =
      some (delimiter :: text, rest) := by
  cases leads with
  | all =>
      have most : row + 1 ≤ 2 := by omega
      have closed := closing_of_many most ends
      rw [List.replicate_succ', List.append_assoc, List.singleton_append] at closed
      rw [stops.closed _ _ closed, whole rfl, ← List.replicate_succ', List.replicate_succ]
  | other ne others =>
      rw [List.append_assoc, List.cons_append] at after ⊢
      rw [stops.opened _ (closing_of_few few ne _), after]
      rfl

/-! ## Escaped characters -/

/-- How a character other than a quote is written between quotes. -/
inductive IsEscape (multiline : Bool) (c : Char) : List Char → Prop
  | plain (backslash : c ≠ '\\') (carriage : c ≠ '\r')
      (content : ∀ rest, isContent multiline c rest = true) : IsEscape multiline c [c]
  | short {letter : Char} (meaning : shortEscapes.lookup letter = some c)
      (ink : letter ≠ ' ' ∧ letter ≠ '\t' ∧ letter ≠ '\n' ∧ letter ≠ '\r') :
      IsEscape multiline c ['\\', letter]
  | unicode (control : isControl c = true) :
      IsEscape multiline c (['\\', 'u'] ++ controlDigits c.toNat)

theorem isEscape_escapeChar (multiline : Bool) (c : Char) :
    IsEscape multiline c (escapeChar multiline c) := by
  unfold escapeChar
  split
  · next hc =>
    subst hc
    exact .short (by decide) (by decide)
  split
  · next hc =>
    subst hc
    exact .short (by decide) (by decide)
  split
  · next hc =>
    subst hc
    cases multiline with
    | false => exact .short (by decide) (by decide)
    | true => exact .plain (by decide) (by decide) fun _ => rfl
  split
  · next hc =>
    subst hc
    exact .short (by decide) (by decide)
  split
  · next hc =>
    subst hc
    exact .short (by decide) (by decide)
  split
  · next hc =>
    subst hc
    exact .short (by decide) (by decide)
  next feed _ carriage backslash =>
  split
  · next control => exact .unicode control
  · next control =>
    refine .plain backslash carriage fun rest => ?_
    simp [isContent, feed, carriage, control]

private theorem hexChar?_controlDigits :
    ∀ n < 128, hexChar? (controlDigits n) = some (Char.ofNat n) := by
  decide

private theorem lt_of_isControl {c : Char} (h : isControl c = true) : c.toNat < 128 := by
  simp only [isControl, Bool.or_eq_true, Bool.and_eq_true, decide_eq_true_eq, beq_iff_eq] at h
  omega

theorem readBasic_short {multiline : Bool} {letter c : Char}
    (meaning : shortEscapes.lookup letter = some c)
    (ink : letter ≠ ' ' ∧ letter ≠ '\t' ∧ letter ≠ '\n' ∧ letter ≠ '\r') (text : List Char) :
    readBasic multiline false ('\\' :: letter :: text) =
      keep c (readBasic multiline false text) := by
  have goesOn : endsLine (letter :: text) = false := by simp [endsLine, ink]
  rw [readBasic.eq_def]
  simp [goesOn, meaning, keep]

theorem IsEscape.readBasic_append {multiline : Bool} {c : Char} {written : List Char}
    (h : IsEscape multiline c written) (quote : c ≠ '"') (text : List Char) :
    Toml.readBasic multiline false (written ++ text) =
      keep c (Toml.readBasic multiline false text) := by
  cases h with
  | plain backslash _ content =>
      rw [List.singleton_append, readBasic.eq_def]
      simp [quote, backslash, content, keep]
  | short meaning ink => exact readBasic_short meaning ink text
  | unicode control =>
      have value := hexChar?_controlDigits c.toNat (lt_of_isControl control)
      have unknown : shortEscapes.lookup 'u' = none := by decide
      have goesOn (text : List Char) : endsLine ('u' :: text) = false := by simp [endsLine]
      rw [Char.ofNat_toNat] at value
      rw [List.append_assoc, List.cons_append, List.cons_append, readBasic.eq_def]
      simp only [controlDigits, List.cons_append, List.nil_append] at value ⊢
      simp [goesOn, unknown, value, keep]

theorem IsEscape.exists_head {multiline : Bool} {c : Char} {written : List Char}
    (h : IsEscape multiline c written) (quote : c ≠ '"') :
    ∃ first others, written = first :: others ∧ first ≠ '"' ∧ first ≠ '\r' ∧
      (first = '\n' → c = '\n') := by
  cases h with
  | plain _ carriage _ => exact ⟨c, [], rfl, quote, carriage, id⟩
  | short _ _ => exact ⟨_, _, rfl, by decide, by decide, fun h => absurd h (by decide)⟩
  | unicode _ => exact ⟨_, _, rfl, by decide, by decide, fun h => absurd h (by decide)⟩

/-! ## Between quotes -/

theorem readBasic_line (text rest : List Char) (row : Nat) :
    readBasic false false (escapeText false row text ++ '"' :: rest) = some (text, rest) := by
  induction text generalizing row with
  | nil =>
      rw [escapeText, List.nil_append, readBasic.eq_def]
      simp
  | cons c text ih =>
      rw [escapeText]
      split
      · next hc =>
        subst hc
        have meaning : shortEscapes.lookup '"' = some '"' := by decide
        simp only [Bool.false_and, Bool.false_eq_true, if_false, List.cons_append]
        rw [readBasic_short meaning (by decide), ih]
        rfl
      · next hc =>
        rw [List.append_assoc, (isEscape_escapeChar false c).readBasic_append hc, ih]
        rfl

/-- How many quotes may stand at the front of escaped text after the row before it. -/
private theorem leads_escapeText (text : List Char) {row : Nat} (most : row ≤ 2) :
    ∃ more, row + more ≤ 2 ∧ Leads '"' more (escapeText true row text) ∧
      (escapeText true row text = List.replicate more '"' → text = List.replicate more '"') := by
  induction text generalizing row with
  | nil =>
      refine ⟨0, most, .all, fun _ => rfl⟩
  | cons c text ih =>
      rw [escapeText]
      split
      · next hc =>
        subst hc
        by_cases few : row < 2
        · have next : row + 1 ≤ 2 := few
          obtain ⟨more, bound, leads, whole⟩ := ih next
          rw [if_pos (by simp [few])]
          refine ⟨more + 1, by omega, leads.cons, fun h => ?_⟩
          rw [List.replicate_succ] at h ⊢
          rw [whole (List.cons.inj h).2]
        · -- A third quote gets a backslash, and so the row ends before it.
          rw [if_neg (by simp [few])]
          exact ⟨0, most, leads_of_ne (by decide) _, fun h => nomatch h⟩
      · next hc =>
        obtain ⟨first, others, shape, ne, -⟩ := (isEscape_escapeChar true c).exists_head hc
        rw [shape, List.cons_append]
        exact ⟨0, most, leads_of_ne ne _, fun h => nomatch h⟩

private theorem stops_readBasic : Stops '"' (readBasic true false) where
  closed text result h := by
    rw [readBasic.eq_def]
    simp [h]
  opened text h := by
    rw [readBasic.eq_def]
    simp [h, keep]

theorem readBasic_long (text : List Char) {row : Nat} (most : row ≤ 2)
    (ends : ∀ c ∈ rest.head?, c ≠ '"') :
    readBasic true false (escapeText true row text ++ '"' :: '"' :: '"' :: rest) =
      some (text, rest) := by
  induction text generalizing row with
  | nil =>
      have closed := closing_of_many (Nat.zero_le 2) ends
      exact stops_readBasic.closed _ _ closed
  | cons c text ih =>
      rw [escapeText]
      split
      · next hc =>
        subst hc
        by_cases few : row < 2
        · -- Reading does not know `row`; what it needs is how many quotes are still ahead.
          have next : row + 1 ≤ 2 := few
          obtain ⟨more, bound, leads, whole⟩ := leads_escapeText text next
          rw [if_pos (by simp [few]), List.cons_append]
          exact stops_readBasic.read_cons_delimiter leads (by omega) whole ends (ih few)
        · have meaning : shortEscapes.lookup '"' = some '"' := by decide
          rw [if_neg (by simp [few]), List.cons_append, List.cons_append,
            readBasic_short meaning (by decide), ih (by omega)]
          rfl
      · next hc =>
        rw [List.append_assoc, (isEscape_escapeChar true c).readBasic_append hc, ih (by omega)]
        rfl

/-! ## Between apostrophes -/

private theorem le_longestRun (c : Char) (text : List Char) (current : Nat) :
    current ≤ longestRun c text current := by
  induction text generalizing current with
  | nil => exact Nat.le_refl current
  | cons d text ih =>
      rw [longestRun]
      split
      · exact Nat.le_of_succ_le (ih (current + 1))
      · exact Nat.le_max_left _ _

theorem leads_of_longestRun (text : List Char) {current most : Nat}
    (bound : longestRun delimiter text current ≤ most) :
    ∃ row, current + row ≤ most ∧ Leads delimiter row text := by
  induction text generalizing current with
  | nil => exact ⟨0, bound, .all⟩
  | cons c text ih =>
      rw [longestRun] at bound
      split at bound
      · next hc =>
        subst hc
        obtain ⟨row, fits, leads⟩ := ih bound
        exact ⟨row + 1, by omega, leads.cons⟩
      · next hc =>
        exact ⟨0, (Nat.le_max_left _ _).trans bound, leads_of_ne hc text⟩

theorem readLiteral_plain {multiline : Bool} {c : Char} (other : c ≠ '\x27')
    (content : isContent multiline c text = true) :
    readLiteral multiline (c :: text) = keep c (readLiteral multiline text) := by
  rw [readLiteral]
  simp [other, content, keep]

private theorem stops_readLiteral : Stops '\x27' (readLiteral true) where
  closed text result h := by
    rw [readLiteral]
    simp [h]
  opened text h := by
    rw [readLiteral]
    simp [h, keep]

theorem readLiteral_line (rest : List Char) (runs : longestRun '\x27' text 0 = 0)
    (plain : ∀ c ∈ text, isControl c = false) :
    readLiteral false (text ++ '\x27' :: rest) = some (text, rest) := by
  induction text with
  | nil =>
      rw [List.nil_append, readLiteral]
      simp
  | cons c text ih =>
      rw [longestRun] at runs
      split at runs
      · have := le_longestRun '\x27' text (0 + 1)
        omega
      · next hc =>
        have content : isContent false c (text ++ '\x27' :: rest) = true := by
          simp [isContent, plain c List.mem_cons_self]
        rw [List.cons_append, readLiteral_plain hc content,
          ih (by omega) fun d hd => plain d (List.mem_cons_of_mem _ hd)]
        rfl

theorem readLiteral_long (ends : ∀ c ∈ rest.head?, c ≠ '\x27') {current : Nat}
    (runs : longestRun '\x27' text current ≤ 2)
    (plain : ∀ c ∈ text, isControl c = true → c = '\n') :
    readLiteral true (text ++ '\x27' :: '\x27' :: '\x27' :: rest) = some (text, rest) := by
  induction text generalizing current with
  | nil =>
      have closed := closing_of_many (Nat.zero_le 2) ends
      exact stops_readLiteral.closed _ _ closed
  | cons c text ih =>
      have plainRest (d : Char) (hd : d ∈ text) := plain d (List.mem_cons_of_mem _ hd)
      rw [longestRun] at runs
      split at runs
      · next hc =>
        subst hc
        -- Nothing is escaped here, so only the longest run of the text keeps three from a row.
        obtain ⟨row, fits, leads⟩ := leads_of_longestRun text runs
        exact stops_readLiteral.read_cons_delimiter leads (by omega) id ends (ih runs plainRest)
      · next hc =>
        have content : isContent true c (text ++ '\x27' :: '\x27' :: '\x27' :: rest) = true := by
          by_cases feed : c = '\n'
          · simp [isContent, feed]
          · have printed : isControl c = false := by
              have := plain c List.mem_cons_self
              grind
            have carriage : c ≠ '\r' := by
              rintro rfl
              exact absurd printed (by decide)
            simp [isContent, feed, carriage, printed]
        rw [List.cons_append, readLiteral_plain hc content,
          ih ((Nat.le_max_right _ _).trans runs) plainRest]
        rfl

/-! ## Forms of strings -/

theorem of_isPlain (plain : (contentsOf text).control = false) :
    ∀ c ∈ text, isControl c = true → c = '\n' := by
  intro c hc control
  have := List.any_eq_false.mp plain c hc
  simpa [control] using this

theorem not_mem_of_lineFeed (h : (contentsOf text).lineFeed = false) : '\n' ∉ text := fun hc => by
  have : text.contains '\n' = true := List.contains_iff_mem.mpr hc
  exact nomatch this.symm.trans h

private theorem of_isLiteral (h : formOf (contentsOf text) = .literal) :
    longestRun '\x27' text 0 = 0 ∧ ∀ c ∈ text, isControl c = false := by
  unfold formOf at h
  dsimp only at h
  split at h
  · exact nomatch h
  split at h
  · next single =>
    simp only [Bool.and_eq_true, Bool.not_eq_true', decide_eq_true_eq] at single
    obtain ⟨⟨plain, feed⟩, apart⟩ := single
    refine ⟨apart, fun c hc => ?_⟩
    by_contra control
    have := of_isPlain plain c hc (by simpa using control)
    exact not_mem_of_lineFeed feed (this ▸ hc)
  · split at h
    · exact nomatch h
    split at h
    · exact nomatch h
    split at h <;> exact nomatch h

private theorem of_isLongLiteral (h : formOf (contentsOf text) = .longLiteral) :
    longestRun '\x27' text 0 ≤ 2 ∧ ∀ c ∈ text, isControl c = true → c = '\n' := by
  unfold formOf at h
  dsimp only at h
  split at h
  · exact nomatch h
  split at h
  · exact nomatch h
  split at h
  · exact nomatch h
  split at h
  · next fits =>
    simp only [Bool.and_eq_true, Bool.not_eq_true', decide_eq_true_eq] at fits
    exact ⟨fits.2, of_isPlain fits.1⟩
  · split at h <;> exact nomatch h

theorem dropLineEnd_opening {lineFeed : Bool}
    (h : lineFeed = false → ∀ c ∈ text.head?, c ≠ '\n' ∧ c ≠ '\r') :
    dropLineEnd (opening lineFeed ++ text) = text := by
  cases lineFeed with
  | true => rfl
  | false =>
      cases text with
      | nil => rfl
      | cons c text =>
          obtain ⟨feed, carriage⟩ := h rfl c rfl
          simp [opening, dropLineEnd, feed, carriage]

/-- Two delimiters open a long string only together with a third. -/
theorem readQuoted?_eq_readLine? (h : ∀ more, text ≠ delimiter :: delimiter :: more) :
    readQuoted? (delimiter :: text) = readLine? (delimiter :: text) := by
  unfold readQuoted?
  split
  · next more heq =>
    obtain ⟨rfl, after⟩ := List.cons.inj heq
    exact absurd after (h more)
  · next more heq =>
    obtain ⟨rfl, after⟩ := List.cons.inj heq
    exact absurd after (h more)
  · rfl

theorem escapeText_cons (multiline : Bool) (c : Char) (text : List Char) :
    ∃ first others, escapeText multiline 0 (c :: text) = first :: others ∧
      (multiline = false → first ≠ '"') ∧ first ≠ '\r' ∧ (first = '\n' → c = '\n') := by
  rw [escapeText]
  split
  · cases multiline with
    | false => exact ⟨_, _, rfl, by decide, by decide, fun h => absurd h (by decide)⟩
    | true => exact ⟨_, _, rfl, by decide, by decide, fun h => absurd h (by decide)⟩
  · next quote =>
    obtain ⟨first, others, shape, ne, heads⟩ := (isEscape_escapeChar multiline c).exists_head quote
    rw [shape]
    exact ⟨first, _, rfl, fun _ => ne, heads⟩

private theorem readQuoted?_basic (text : List Char) (ends : ∀ c ∈ rest.head?, c ≠ '"') :
    readQuoted? ('"' :: (escapeText false 0 text ++ '"' :: rest)) = some (text, rest) := by
  rw [readQuoted?_eq_readLine?]
  · exact readBasic_line text rest 0
  · intro more heq
    cases text with
    | nil =>
        rw [escapeText, List.nil_append] at heq
        rw [(List.cons.inj heq).2] at ends
        exact ends '"' rfl rfl
    | cons c text =>
        obtain ⟨first, others, shape, ne, -⟩ := escapeText_cons false c text
        rw [shape] at heq
        exact ne rfl (List.cons.inj heq).1

private theorem readQuoted?_literal (h : formOf (contentsOf text) = .literal)
    (ends : ∀ c ∈ rest.head?, c ≠ '\x27') :
    readQuoted? ('\x27' :: (text ++ '\x27' :: rest)) = some (text, rest) := by
  obtain ⟨runs, plain⟩ := of_isLiteral h
  rw [readQuoted?_eq_readLine?]
  · exact readLiteral_line rest runs plain
  · intro more heq
    obtain ⟨row, fits, leads⟩ := leads_of_longestRun text (Nat.le_of_eq runs)
    obtain rfl : row = 0 := by omega
    -- Two apostrophes would be the closing one and the first of `rest`.
    cases leads with
    | all =>
        rw [List.replicate_zero, List.nil_append] at heq
        rw [(List.cons.inj heq).2] at ends
        exact ends '\x27' rfl rfl
    | other ne others => exact ne (List.cons.inj heq).1

private theorem readQuoted?_longBasic (text : List Char) (ends : ∀ c ∈ rest.head?, c ≠ '"') :
    readQuoted? ('"' :: '"' :: '"' :: (opening (contentsOf text).lineFeed ++
      (escapeText true 0 text ++ '"' :: '"' :: '"' :: rest))) = some (text, rest) := by
  rw [readQuoted?, dropLineEnd_opening, readBasic_long text (by omega) ends]
  intro feed c hc
  cases text with
  | nil =>
      cases hc
      decide
  | cons d text =>
      obtain ⟨first, others, shape, -, carriage, same⟩ := escapeText_cons true d text
      rw [shape] at hc
      cases hc
      refine ⟨fun heq => ?_, carriage⟩
      exact not_mem_of_lineFeed feed (same heq ▸ List.mem_cons_self)

private theorem readQuoted?_longLiteral (h : formOf (contentsOf text) = .longLiteral)
    (ends : ∀ c ∈ rest.head?, c ≠ '\x27') :
    readQuoted? ('\x27' :: '\x27' :: '\x27' :: (opening (contentsOf text).lineFeed ++
      (text ++ '\x27' :: '\x27' :: '\x27' :: rest))) = some (text, rest) := by
  obtain ⟨runs, plain⟩ := of_isLongLiteral h
  rw [readQuoted?, dropLineEnd_opening, readLiteral_long ends runs plain]
  intro feed c hc
  cases text with
  | nil =>
      cases hc
      decide
  | cons d text =>
      cases hc
      constructor
      · rintro rfl
        exact not_mem_of_lineFeed feed List.mem_cons_self
      · rintro rfl
        exact absurd (plain '\r' List.mem_cons_self (by decide)) (by decide)

theorem readQuoted?_writeString (text : List Char)
    (ends : ∀ c ∈ rest.head?, c ≠ '"' ∧ c ≠ '\x27') :
    readQuoted? (writeString text ++ rest) = some (text, rest) := by
  have notQuote (c : Char) (hc : c ∈ rest.head?) := (ends c hc).1
  have notApostrophe (c : Char) (hc : c ∈ rest.head?) := (ends c hc).2
  unfold writeString
  dsimp only
  split
  · simpa using readQuoted?_basic text notQuote
  · next literal => simpa using readQuoted?_literal literal notApostrophe
  · simpa using readQuoted?_longBasic text notQuote
  · next literal => simpa using readQuoted?_longLiteral literal notApostrophe

theorem writeString_cons (text : List Char) :
    ∃ first others, writeString text = first :: others ∧ (first = '"' ∨ first = '\x27') := by
  unfold writeString
  dsimp only
  split
  · exact ⟨_, _, rfl, .inl rfl⟩
  · exact ⟨_, _, rfl, .inr rfl⟩
  · exact ⟨_, _, rfl, .inl rfl⟩
  · exact ⟨_, _, rfl, .inr rfl⟩

end ObjectStorage.Toml
