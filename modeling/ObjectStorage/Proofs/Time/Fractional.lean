import Mathlib.Data.Rat.Floor
import ObjectStorage.Proofs.Text.Numerals
import ObjectStorage.Time.Timestamp

/-!
# Seconds with a decimal fraction

A time is read off exactly the decimal numbers without a sign whose whole part is a number of
seconds in range.  It is the number cut off after nine decimal places, so that no greater number is
an earlier time, and the sum of the nine places fits 32 bits at every step.
-/

namespace ObjectStorage

namespace Text

variable {separator : Char} {text before after : List Char}

private theorem eq_append_of_cut? (h : cut? separator text = some (before, after)) :
    text = before ++ separator :: after := by
  induction text generalizing before with
  | nil => cases h
  | cons c rest ih =>
      simp only [cut?] at h
      split at h
      · next same =>
        cases h
        exact same ▸ rfl
      · split at h
        · cases h
        · next found =>
          cases h
          exact congrArg (c :: ·) (ih found)

end Text

namespace Integer

variable {digits : List Char}

theorem isDigit_eq_true_iff {c : Char} : isDigit c = true ↔ IsDigit c := by
  rw [isDigit, Option.isSome_iff_exists]
  simp [digit?_eq_some_iff]

theorem all_isDigit_iff : digits.all isDigit = true ↔ ∀ c ∈ digits, IsDigit c := by
  rw [List.all_eq_true]
  exact forall₂_congr fun c _ => isDigit_eq_true_iff

private theorem not_isDigit_point : ¬IsDigit '.' := by
  rintro ⟨low, -⟩
  exact absurd low (by decide)

theorem valueFrom_cons (read : Nat) (c : Char) (rest : List Char) :
    valueFrom read (c :: rest) = valueFrom (10 * read + (c.toNat - 48)) rest :=
  List.foldl_cons ..

theorem valueFrom_append (read : Nat) (first second : List Char) :
    valueFrom read (first ++ second) = valueFrom (valueFrom read first) second :=
  List.foldl_append

theorem valueFrom_eq (read : Nat) (digits : List Char) :
    valueFrom read digits = read * 10 ^ digits.length + valueFrom 0 digits := by
  induction digits generalizing read with
  | nil => simp [valueFrom]
  | cons c rest ih =>
      rw [valueFrom_cons, valueFrom_cons, ih, ih (10 * 0 + _), List.length_cons, pow_succ]
      ring

theorem valueFrom_zero_cons (c : Char) (rest : List Char) :
    valueFrom 0 (c :: rest) = (c.toNat - 48) * 10 ^ rest.length + valueFrom 0 rest := by
  rw [valueFrom_cons, Nat.mul_zero, Nat.zero_add, valueFrom_eq]

theorem valueFrom_zero_lt (all : ∀ c ∈ digits, IsDigit c) :
    valueFrom 0 digits < 10 ^ digits.length := by
  induction digits with
  | nil => exact Nat.one_pos
  | cons c rest ih =>
      obtain ⟨⟨-, high⟩, further⟩ := List.forall_mem_cons.mp all
      have below := ih further
      have most : (c.toNat - 48) * 10 ^ rest.length ≤ 9 * 10 ^ rest.length :=
        Nat.mul_le_mul_right _ (by omega)
      rw [valueFrom_zero_cons, List.length_cons, pow_succ]
      omega

private theorem readUnsigned_of_all {limit : Nat} (some : digits ≠ [])
    (all : ∀ c ∈ digits, IsDigit c) :
    (valueFrom 0 digits ≤ limit ∧ readUnsigned limit digits = .ok (valueFrom 0 digits)) ∨
      limit < valueFrom 0 digits ∧ ∃ fault, readUnsigned limit digits = .error fault := by
  have numeral : IsNumeral digits (valueFrom 0 digits) := ⟨digits, .inl rfl, some, all, rfl⟩
  by_cases bound : valueFrom 0 digits ≤ limit
  · exact .inl ⟨bound, readUnsigned_ok_iff.mpr ⟨numeral, bound⟩⟩
  · refine .inr ⟨Nat.lt_of_not_le bound, ?_⟩
    cases read : readUnsigned limit digits with
    | error fault => exact ⟨fault, rfl⟩
    | ok n =>
        obtain ⟨⟨others, shape, -, -, rfl⟩, within⟩ := readUnsigned_ok_iff.mp read
        rcases shape with rfl | rfl
        · exact absurd within bound
        · exact absurd (all '+' List.mem_cons_self) not_isDigit_plus

end Integer

namespace Timestamp

open Integer

variable {text : String} {whole fraction digits : List Char} {timestamp : Timestamp}

/-! ## Nine decimal places -/

theorem addDigits_eq {places : Nat} (total : Nat) (fits : digits.length ≤ places + 1) :
    addDigits (10 ^ places) total digits =
      total + valueFrom 0 digits * 10 ^ (places + 1 - digits.length) := by
  induction digits generalizing places total with
  | nil => simp [addDigits, valueFrom]
  | cons c rest ih =>
      rw [List.length_cons] at fits
      rw [addDigits, valueFrom_zero_cons, List.length_cons, Nat.add_sub_add_right]
      cases places with
      | zero =>
          obtain rfl : rest = [] := List.eq_nil_of_length_eq_zero (by omega)
          simp [addDigits, valueFrom]
      | succ places =>
          have power : 10 ^ rest.length * 10 ^ (places + 1 - rest.length) = 10 ^ (places + 1) := by
            rw [← pow_add, Nat.add_sub_cancel' (by omega)]
          rw [pow_succ, Nat.mul_div_cancel _ (by decide), ih _ (by omega), ← pow_succ,
            Nat.add_mul, Nat.mul_assoc, power, Nat.add_assoc]

theorem nanosecondsOfFraction_eq (all : ∀ c ∈ fraction, IsDigit c) :
    nanosecondsOfFraction fraction =
      valueFrom 0 fraction * 1000000000 / 10 ^ fraction.length := by
  have nine : (fraction.take 9).length ≤ 8 + 1 := List.length_take_le _ _
  have places := addDigits_eq 0 nine
  rw [nanosecondsOfFraction]
  change addDigits (10 ^ 8) 0 (fraction.take 9) = valueFrom 0 fraction * 10 ^ 9 / _
  rw [places, Nat.zero_add, List.length_take]
  by_cases short : fraction.length ≤ 9
  · have power : (10 : Nat) ^ 9 = 10 ^ (9 - fraction.length) * 10 ^ fraction.length := by
      rw [← pow_add, Nat.sub_add_cancel short]
    rw [List.take_of_length_le short, min_eq_right short, power, ← Nat.mul_assoc,
      Nat.mul_div_cancel _ (by positivity)]
  · -- What follows the ninth digit is less than one in the ninth place.
    have rest : valueFrom 0 (fraction.drop 9) < 10 ^ (fraction.length - 9) := by
      rw [← List.length_drop]
      exact valueFrom_zero_lt fun c hc => all c (List.mem_of_mem_drop hc)
    have value : valueFrom 0 fraction =
        valueFrom 0 (fraction.drop 9) +
          10 ^ (fraction.length - 9) * valueFrom 0 (fraction.take 9) := by
      conv_lhs => rw [← List.take_append_drop 9 fraction]
      rw [valueFrom_append, valueFrom_eq, List.length_drop]
      ring
    have power : (10 : Nat) ^ fraction.length = 10 ^ (fraction.length - 9) * 10 ^ 9 := by
      rw [← pow_add, Nat.sub_add_cancel (by omega)]
    rw [min_eq_left (by omega), power, Nat.mul_div_mul_right _ _ (by positivity), value,
      Nat.add_mul_div_left _ _ (by positivity), Nat.div_eq_of_lt rest]
    simp

theorem nanosecondsOfFraction_lt (all : ∀ c ∈ fraction, IsDigit c) :
    nanosecondsOfFraction fraction < 1000000000 := by
  rw [nanosecondsOfFraction_eq all, Nat.div_lt_iff_lt_mul (by positivity), Nat.mul_comm]
  exact Nat.mul_lt_mul_of_pos_left (valueFrom_zero_lt all) (by decide)

/-! ## The places in words of 32 bits -/

/-- The number, if 32 bits with a sign hold it. -/
def word32? (n : Int) : Option Int := if -2147483648 ≤ n ∧ n ≤ 2147483647 then some n else none

/-- Adds digits from a place on, if 32 bits hold the weights, the products and the sums. -/
def addWords? (place : Nat) (total : Int) : List Char → Option Int
  | [] => some total
  | c :: rest => do
      let weight ← word32? (10 ^ (8 - place))
      let product ← word32? ((c.toNat - 48) * weight)
      let total ← word32? (total + product)
      addWords? (place + 1) total rest

private theorem word32?_natCast {n : Nat} (h : n ≤ 1000000000) : word32? n = some ↑n :=
  if_pos ⟨by omega, by omega⟩

/-- Before each place the total falls short of a second by what the places to come can make. -/
def HasRoom (place total : Nat) : Prop := total + 10 ^ (9 - place) ≤ 1000000000

private theorem addWords?_cons {c : Char} {place total : Nat} (digit : IsDigit c) (fits : place < 9)
    (room : HasRoom place total) (rest : List Char) :
    addWords? place total (c :: rest) =
      addWords? (place + 1) ↑(total + (c.toNat - 48) * 10 ^ (8 - place)) rest ∧
      HasRoom (place + 1) (total + (c.toNat - 48) * 10 ^ (8 - place)) := by
  obtain ⟨low, high⟩ := digit
  have places : (10 : Nat) ^ (9 - place) = 10 ^ (8 - place) * 10 := by
    rw [← pow_succ, show 8 - place + 1 = 9 - place by omega]
  have most : (c.toNat - 48) * 10 ^ (8 - place) ≤ 9 * 10 ^ (8 - place) :=
    Nat.mul_le_mul_right _ (by omega)
  have weight : (10 : Int) ^ (8 - place) = (10 ^ (8 - place) : Nat) := (Nat.cast_pow 10 _).symm
  have product : ((c.toNat : Int) - 48) * (10 ^ (8 - place) : Nat) =
      ((c.toNat - 48) * 10 ^ (8 - place) : Nat) := by
    rw [Nat.cast_mul, Nat.cast_sub low]
    rfl
  unfold HasRoom at room ⊢
  refine ⟨?_, by rw [show 9 - (place + 1) = 8 - place by omega]; omega⟩
  simp only [addWords?, weight, Option.bind_eq_bind]
  rw [word32?_natCast (by omega), Option.bind_some, product, word32?_natCast (by omega),
    Option.bind_some, ← Nat.cast_add, word32?_natCast (by omega), Option.bind_some]

private theorem addWords?_eq (all : ∀ c ∈ digits, IsDigit c) (place total : Nat)
    (fits : place + digits.length ≤ 9) (room : HasRoom place total) :
    addWords? place total digits =
      some ↑(total + valueFrom 0 digits * 10 ^ (9 - (place + digits.length))) := by
  induction digits generalizing place total with
  | nil => simp [addWords?, valueFrom]
  | cons c rest ih =>
      obtain ⟨digit, further⟩ := List.forall_mem_cons.mp all
      rw [List.length_cons, ← Nat.add_assoc, Nat.add_right_comm] at fits ⊢
      obtain ⟨step, room⟩ := addWords?_cons digit (by omega) room rest
      have moved : 10 ^ rest.length * 10 ^ (9 - (place + 1 + rest.length)) = 10 ^ (8 - place) := by
        rw [← pow_add, show rest.length + (9 - (place + 1 + rest.length)) = 8 - place by omega]
      rw [step, ih further _ _ fits room, valueFrom_zero_cons, Nat.add_mul, Nat.mul_assoc, moved,
        Nat.add_assoc]

private theorem addWords?_places (all : ∀ c ∈ digits, IsDigit c) (nine : digits.length ≤ 9) :
    addWords? 0 0 digits = some ↑(nanosecondsOfFraction digits) := by
  have sum := addWords?_eq all 0 0 (by omega) (by simp [HasRoom])
  rw [Nat.cast_zero, Nat.zero_add, Nat.zero_add] at sum
  rw [sum, nanosecondsOfFraction, List.take_of_length_le nine]
  have weighed : addDigits (10 ^ 8) 0 digits = _ := addDigits_eq 0 nine
  exact congrArg (fun n : Nat => some (n : Int)) (weighed.trans (Nat.zero_add _)).symm

/-! ## Reading -/

/-- Digits, and after a point, if there is one, more digits. -/
structure IsDecimal (text : String) (whole fraction : List Char) : Prop where
  shape : text.toList = whole ∧ fraction = [] ∨ text.toList = whole ++ '.' :: fraction
  some : whole ≠ []
  digits : ∀ c ∈ whole, IsDigit c
  decimals : ∀ c ∈ fraction, IsDigit c

/-- The number that the digits before and after a point denote. -/
def decimalValue (whole fraction : List Char) : ℚ :=
  valueFrom 0 whole + valueFrom 0 fraction / 10 ^ fraction.length

private theorem IsDecimal.cut?_eq (decimal : IsDecimal text whole fraction) :
    (Text.cut? '.' text.toList).getD (text.toList, []) = (whole, fraction) := by
  have noPoint : '.' ∉ whole := fun h => not_isDigit_point (decimal.digits _ h)
  rcases decimal.shape with ⟨shape, rfl⟩ | shape
  · rw [shape, Text.cut?_eq_none noPoint]
    rfl
  · rw [shape, Text.cut?_append noPoint]
    rfl

theorem isDecimal_of_readFractional (h : readFractional text = .ok timestamp) :
    ∃ whole fraction, IsDecimal text whole fraction := by
  unfold readFractional at h
  split at h
  next whole fraction parts =>
  split at h
  · exact nomatch h
  next accepted =>
  simp only [Bool.or_eq_true, Bool.not_eq_true', not_or, Bool.not_eq_false, List.isEmpty_iff,
    all_isDigit_iff] at accepted
  obtain ⟨⟨some, digits⟩, decimals⟩ := accepted
  refine ⟨whole, fraction, ?_, some, digits, decimals⟩
  cases cut : Text.cut? '.' text.toList with
  | none =>
      rw [cut] at parts
      cases parts
      exact .inl ⟨rfl, rfl⟩
  | some both =>
      rw [cut] at parts
      cases parts
      exact .inr (Text.eq_append_of_cut? cut)

theorem readFractional_eq (decimal : IsDecimal text whole fraction) :
    readFractional text =
      if maxSignedWord < valueFrom 0 whole then .error .malformed
      else (ofNanoseconds?
        (valueFrom 0 whole * 1000000000 + nanosecondsOfFraction fraction)).elim
          (.error .outOfRange) .ok := by
  have all : whole.all isDigit = true := all_isDigit_iff.mpr decimal.digits
  have decimals : fraction.all isDigit = true := all_isDigit_iff.mpr decimal.decimals
  have nonempty : whole.isEmpty = false := List.isEmpty_eq_false_iff.mpr decimal.some
  unfold readFractional
  -- With a variable in its place, to reduce the matches is not to multiply out the range of times.
  obtain ⟨timeOf, same⟩ : ∃ timeOf, timeOf = ofNanoseconds? := ⟨_, rfl⟩
  rw [← same, decimal.cut?_eq]
  simp only [all, decimals, nonempty, Bool.not_true, Bool.or_self, Bool.false_eq_true, if_false]
  rcases readUnsigned_of_all decimal.some decimal.digits with ⟨within, read⟩ | ⟨beyond, fault, read⟩
  · rw [read, if_neg (Nat.not_lt.mpr within)]
    dsimp only
    cases timeOf (valueFrom 0 whole * 1000000000 + nanosecondsOfFraction fraction) with
    | none => rfl
    | some timestamp => rfl
  · rw [read, if_pos beyond]

private theorem ofNanoseconds?_seconds {seconds n : Nat} (h : n < 1000000000) :
    ofNanoseconds? (seconds * 1000000000 + n) = some timestamp ↔
      seconds ≤ 253402207200 ∧ timestamp.nanoseconds = seconds * 1000000000 + n := by
  unfold ofNanoseconds?
  split
  · next within =>
    rw [Option.some.injEq]
    constructor
    · rintro rfl
      exact ⟨by omega, rfl⟩
    · rintro ⟨-, same⟩
      cases timestamp
      cases same
      rfl
  · next beyond =>
    refine iff_of_false (Option.some_ne_none _).symm ?_
    rintro ⟨bound, -⟩
    omega

theorem readFractional_ok_iff (decimal : IsDecimal text whole fraction) :
    readFractional text = .ok timestamp ↔
      valueFrom 0 whole ≤ 253402207200 ∧
        timestamp.nanoseconds =
          valueFrom 0 whole * 1000000000 + nanosecondsOfFraction fraction := by
  rw [readFractional_eq decimal]
  have small := nanosecondsOfFraction_lt decimal.decimals
  split
  · next beyond =>
    refine iff_of_false nofun ?_
    rintro ⟨bound, -⟩
    simp only [maxSignedWord] at beyond
    omega
  · rw [← ofNanoseconds?_seconds small]
    cases ofNanoseconds? (valueFrom 0 whole * 1000000000 + nanosecondsOfFraction fraction) with
    | none => simp
    | some other => simp

theorem nanoseconds_eq_floor (decimal : IsDecimal text whole fraction)
    (h : readFractional text = .ok timestamp) :
    timestamp.nanoseconds = ⌊decimalValue whole fraction * 1000000000⌋ := by
  have places : decimalValue whole fraction * 1000000000 =
      ((valueFrom 0 whole * 1000000000 : Nat) : ℚ) +
        ((valueFrom 0 fraction * 1000000000 : Nat) : ℚ) / (10 ^ fraction.length : Nat) := by
    rw [decimalValue]
    push_cast
    ring
  rw [places, Int.floor_natCast_add, Rat.floor_natCast_div_natCast,
    ((readFractional_ok_iff decimal).mp h).2, nanosecondsOfFraction_eq decimal.decimals]
  push_cast
  rfl

/-- What is read off a decimal number, and how. -/
structure IsExact (text : String) (whole fraction : List Char) : Prop where
  seconds : ∀ timestamp, readFractional text = .ok timestamp →
    timestamp.seconds = valueFrom 0 whole
  subsecond : ∀ timestamp, readFractional text = .ok timestamp →
    timestamp.subsecond = ↑(valueFrom 0 fraction * 1000000000 / 10 ^ fraction.length)
  /-- After any number of the nine places the words hold the total. -/
  bounded : ∀ count, ∃ total ≤ 999999999,
    addWords? 0 0 ((fraction.take 9).take count) = some (total : Nat)
  total : addWords? 0 0 (fraction.take 9) = some ↑(nanosecondsOfFraction fraction)
  /-- Only the first nine places count. -/
  places : ∀ other digits, IsDecimal other whole digits → digits.take 9 = fraction.take 9 →
    readFractional other = readFractional text
  monotone : ∀ other others digits, IsDecimal other others digits →
    decimalValue whole fraction ≤ decimalValue others digits →
    ∀ earlier later, readFractional text = .ok earlier → readFractional other = .ok later →
      earlier.nanoseconds ≤ later.nanoseconds

private theorem isExact_of_isDecimal (decimal : IsDecimal text whole fraction) :
    IsExact text whole fraction where
  seconds timestamp h := by
    have value := ((readFractional_ok_iff decimal).mp h).2
    have small := nanosecondsOfFraction_lt decimal.decimals
    rw [seconds, Int.tdiv_eq_ediv_of_nonneg (by omega)]
    omega
  subsecond timestamp h := by
    have value := ((readFractional_ok_iff decimal).mp h).2
    have small := nanosecondsOfFraction_lt decimal.decimals
    rw [subsecond, Int.tmod_eq_emod_of_nonneg (by omega),
      ← nanosecondsOfFraction_eq decimal.decimals]
    omega
  bounded count := by
    have all : ∀ c ∈ (fraction.take 9).take count, IsDigit c := fun c hc =>
      decimal.decimals c (List.mem_of_mem_take (List.mem_of_mem_take hc))
    refine ⟨_, Nat.le_of_lt_succ (nanosecondsOfFraction_lt all), addWords?_places all ?_⟩
    simp only [List.length_take]
    omega
  total := by
    have all : ∀ c ∈ fraction.take 9, IsDigit c := fun c hc =>
      decimal.decimals c (List.mem_of_mem_take hc)
    rw [addWords?_places all (List.length_take_le _ _), nanosecondsOfFraction, List.take_take,
      Nat.min_self, ← nanosecondsOfFraction]
  places other digits same nine := by
    have equal : nanosecondsOfFraction digits = nanosecondsOfFraction fraction := by
      rw [nanosecondsOfFraction, nine, ← nanosecondsOfFraction]
    rw [readFractional_eq same, readFractional_eq decimal, equal]
  monotone other others digits same le earlier later read further := by
    rw [nanoseconds_eq_floor decimal read, nanoseconds_eq_floor same further]
    exact Int.floor_le_floor (mul_le_mul_of_nonneg_right le (by norm_num))

/--
The texts that a time is read off are the decimal numbers without a sign whose whole part is in the
range of times, and the time is the number with its fraction cut off after nine places.
-/
theorem fractional_times_exact (text : String) :
    ((∃ timestamp, readFractional text = .ok timestamp) ↔
      ∃ whole fraction, IsDecimal text whole fraction ∧
        valueFrom 0 whole ≤ maxSignedWord ∧ valueFrom 0 whole ≤ 253402207200) ∧
    ∀ whole fraction, IsDecimal text whole fraction → IsExact text whole fraction := by
  refine ⟨⟨?_, ?_⟩, fun whole fraction => isExact_of_isDecimal⟩
  · rintro ⟨timestamp, h⟩
    obtain ⟨whole, fraction, decimal⟩ := isDecimal_of_readFractional h
    have bound := ((readFractional_ok_iff decimal).mp h).1
    refine ⟨whole, fraction, decimal, ?_, bound⟩
    rw [maxSignedWord]
    omega
  · rintro ⟨whole, fraction, decimal, -, bound⟩
    have small := nanosecondsOfFraction_lt decimal.decimals
    obtain ⟨timestamp, value⟩ : ∃ timestamp : Timestamp, timestamp.nanoseconds =
        valueFrom 0 whole * 1000000000 + nanosecondsOfFraction fraction :=
      ⟨⟨_, by omega, by omega⟩, rfl⟩
    exact ⟨timestamp, (readFractional_ok_iff decimal).mpr ⟨bound, value⟩⟩

theorem fractional_times_exact_eleven_places :
    ∃ timestamp, readFractional "0012.12345678999" = .ok timestamp ∧ timestamp.seconds = 12 ∧
      timestamp.subsecond = 123456789 := by
  obtain ⟨accepted, exact⟩ := fractional_times_exact "0012.12345678999"
  have decimal : IsDecimal "0012.12345678999" "0012".toList "12345678999".toList :=
    ⟨.inr rfl, by decide, all_isDigit_iff.mp (by decide), all_isDigit_iff.mp (by decide)⟩
  obtain ⟨timestamp, h⟩ := accepted.mpr ⟨_, _, decimal, by decide, by decide⟩
  have reading := exact _ _ decimal
  exact ⟨timestamp, h, reading.seconds timestamp h, reading.subsecond timestamp h⟩

end Timestamp

end ObjectStorage
