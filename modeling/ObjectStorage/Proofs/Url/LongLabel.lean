import Mathlib.Tactic.Common
import ObjectStorage.Proofs.Url.Ideographs
import ObjectStorage.Proofs.Url.ReadBack

/-!
# A label that is too long to be read back

A label may have a thousand characters, but its letters in Punycode are not read beyond two
thousand.  Characters that are far enough apart take three letters each, so that there are labels
that are read, but whose ASCII form is not.
-/

namespace ObjectStorage.Url

/-! ## The length of Punycode -/

namespace Punycode

private theorem length_varyingDigits_pos (bias k n : Nat) :
    1 ≤ (varyingDigits bias k n).length := by
  rw [varyingDigits]
  split <;> simp

private theorem two_le_length_varyingDigits {n : Nat} (h : 26 ≤ n) (bias k : Nat) :
    2 ≤ (varyingDigits bias k n).length := by
  have lt := threshold_lt k bias
  rw [varyingDigits, if_neg (by omega), List.length_cons]
  have := length_varyingDigits_pos bias (k + 36)
    ((n - threshold k bias) / (36 - threshold k bias))
  omega

private theorem three_le_length_varyingDigits {n : Nat} (h : 936 ≤ n) (bias k : Nat) :
    3 ≤ (varyingDigits bias k n).length := by
  have lt := threshold_lt k bias
  have quotient : 26 ≤ (n - threshold k bias) / (36 - threshold k bias) := by
    rw [Nat.le_div_iff_mul_le (by omega)]
    omega
  rw [varyingDigits, if_neg (by omega), List.length_cons]
  have := two_le_length_varyingDigits quotient bias (k + 36)
  omega

private theorem le_visit (n : Nat) (state : State) (c : Nat) :
    state.handled ≤ (visit n state c).handled ∧
      state.output.length ≤ (visit n state c).output.length := by
  unfold visit
  split
  · simp
  split <;> simp

theorem le_visits (n : Nat) (label : List Nat) (state : State) :
    state.handled ≤ (label.foldl (visit n) state).handled ∧
      state.output.length ≤ (label.foldl (visit n) state).output.length := by
  induction label generalizing state with
  | nil => simp
  | cons c rest ih =>
      have first := le_visit n state c
      have others := ih (visit n state c)
      simp only [List.foldl_cons]
      omega

private theorem grow_visits {n : Nat} {label : List Nat} (hmem : n ∈ label) (state : State) :
    state.handled + 1 ≤ (label.foldl (visit n) state).handled ∧
      (936 ≤ state.delta →
        state.output.length + 3 ≤ (label.foldl (visit n) state).output.length) := by
  induction label generalizing state with
  | nil => exact nomatch hmem
  | cons c rest ih =>
      simp only [List.foldl_cons]
      by_cases heq : c = n
      · subst heq
        have others := le_visits c rest (visit c state c)
        have written : visit c state c =
            { delta := 0
              bias := adapt state.delta (state.handled + 1) state.isFirst
              handled := state.handled + 1
              isFirst := false
              output := state.output ++ varyingDigits state.bias 36 state.delta } := by
          simp [visit]
        rw [written] at others ⊢
        simp only [List.length_append] at others
        constructor
        · exact others.1
        · intro large
          have := three_le_length_varyingDigits large state.bias 36
          omega
      · have later : n ∈ rest := by
          rcases List.mem_cons.mp hmem with rfl | h
          · exact absurd rfl heq
          · exact h
        have ⟨handled, output⟩ := ih later (visit n state c)
        have same : (visit n state c).handled = state.handled ∧
            (visit n state c).output = state.output ∧ state.delta ≤ (visit n state c).delta := by
          unfold visit
          split
          · simp
          · simp
        rw [same.1] at handled
        rw [same.2.1] at output
        exact ⟨handled, fun large => output (large.trans same.2.2)⟩

/-- Code points that are twenty apart. -/
def steps (first : Nat) : Nat → List Nat
  | 0 => []
  | count + 1 => first :: steps (first + 20) count

/-- After forty-nine characters, all distances have three digits. -/
theorem length_handleAll (label : List Nat) (first count : Nat) {last : Nat}
    (gap : last + 20 ≤ first) (hmem : ∀ n ∈ steps first count, n ∈ label) (state : State) :
    state.output.length + 3 * (count - (49 - state.handled)) ≤
      (handleAll label state last (steps first count)).output.length := by
  induction count generalizing first last state with
  | zero => simp [steps, handleAll]
  | succ count ih =>
      rw [steps, handleAll]
      have grown := grow_visits (hmem first (by simp [steps]))
        { state with delta := state.delta + (first - last - 1) * (state.handled + 1) }
      simp only at grown
      have others := ih (first + 20) (Nat.le_refl (first + 20))
        (fun n hn => hmem n (by simp [steps, hn])) (handle label state last first)
      have handled : state.handled + 1 ≤ (handle label state last first).handled := grown.1
      have output : 49 ≤ state.handled →
          state.output.length + 3 ≤ (handle label state last first).output.length := by
        intro h
        have : 19 * 50 ≤ (first - last - 1) * (state.handled + 1) :=
          Nat.mul_le_mul (by omega) (by omega)
        exact grown.2 (by omega)
      have kept : state.output.length ≤ (handle label state last first).output.length :=
        (le_visits first label
          { state with delta := state.delta + (first - last - 1) * (state.handled + 1) }).2
      by_cases h : 49 ≤ state.handled
      · have := output h
        omega
      · omega

theorem le_of_mem_steps {first count n : Nat} (h : n ∈ steps first count) :
    first ≤ n ∧ n < first + 20 * count := by
  induction count generalizing first with
  | zero => exact nomatch h
  | succ count ih =>
      rcases List.mem_cons.mp h with rfl | h
      · omega
      · have := ih h
        omega

private theorem sorted_steps (first count : Nat) :
    (steps first count).foldr insertSorted [] = steps first count := by
  induction count generalizing first with
  | zero => rfl
  | succ count ih =>
      rw [steps, List.foldr_cons, ih]
      cases count with
      | zero => rfl
      | succ count => rw [steps, insertSorted, if_pos (by omega)]

end Punycode

/-! ## Reading the label -/

open Domain

def longLabel : List Char := (Punycode.steps 0x4E00 720).map Char.ofNat

theorem toNat_of_mem_steps {n : Nat} (h : n ∈ Punycode.steps 0x4E00 720) :
    (Char.ofNat n).toNat = n := by
  have bounds := Punycode.le_of_mem_steps h
  exact Utf8.toNat_ofNat_of_lt (by omega)

theorem map_toNat_longLabel : longLabel.map Char.toNat = Punycode.steps 0x4E00 720 := by
  rw [longLabel, List.map_map]
  exact (List.map_congr_left fun n hn => toNat_of_mem_steps hn).trans (List.map_id _)

theorem isIdeograph_of_mem {c : Char} (h : c ∈ longLabel) : IsIdeograph c := by
  obtain ⟨n, hn, rfl⟩ := List.mem_map.mp h
  have bounds := Punycode.le_of_mem_steps hn
  simp only [IsIdeograph, toNat_of_mem_steps hn, firstIdeograph, afterIdeographs]
  omega

theorem not_ascii_of_mem {c : Char} (h : c ∈ longLabel) : 0x80 ≤ c.toNat :=
  (isIdeograph_of_mem h).le_toNat

private theorem length_encode_longLabel : 2000 < (Punycode.encode longLabel).length := by
  have noBasic : (longLabel.filter fun c => c.toNat < 128) = [] := by
    rw [List.filter_eq_nil_iff]
    intro c hc
    have := not_ascii_of_mem hc
    simp only [decide_eq_true_eq]
    omega
  have others : ((longLabel.map Char.toNat).filter (128 ≤ ·)).foldr Punycode.insertSorted [] =
      Punycode.steps 0x4E00 720 := by
    have all : (longLabel.map Char.toNat).filter (128 ≤ ·) = longLabel.map Char.toNat := by
      rw [List.filter_eq_self]
      intro n hn
      obtain ⟨c, hc, rfl⟩ := List.mem_map.mp hn
      have := not_ascii_of_mem hc
      simpa using this
    rw [all, map_toNat_longLabel, Punycode.sorted_steps]
  have apart : 127 + 20 ≤ 0x4E00 := by decide
  have grown := Punycode.length_handleAll (longLabel.map Char.toNat) 0x4E00 720 apart
    (fun n hn => by rwa [map_toNat_longLabel])
    { delta := 0, bias := 72, handled := 0, isFirst := true, output := [] }
  simp only [Punycode.encode, noBasic, others, List.isEmpty_nil, if_true, List.length_nil]
  simp only [List.length_nil] at grown
  omega

private theorem decode_plain {text : List Char} (h : '%' ∉ text) :
    Utf8.decode? (Percent.decodeBytes (Utf8.encode text)) = some (String.ofList text) := by
  have plain {bytes : Bytes} (hbytes : (37 : UInt8) ∉ bytes) :
      Percent.decodeBytes bytes = bytes := by
    induction bytes with
    | nil => rfl
    | cons byte rest ih =>
        rw [List.mem_cons, not_or] at hbytes
        rw [Percent.decodeBytes_cons_of_ne (Ne.symm hbytes.1), ih hbytes.2]
  have noPercent : (37 : UInt8) ∉ Utf8.encode text := fun hmem =>
    h (Percent.mem_of_mem_utf8 hmem (by decide))
  have whole : Utf8.encode text = Utf8.ofText (String.ofList text) := by simp [Utf8.ofText]
  rw [plain noPercent, whole, Utf8.decode?, Utf8.decode_ofText]
  rfl

theorem toAscii?_of_label {text : List Char} (mapped : mapText? text = some text)
    (inert : ∀ c ∈ text, IsInert c) (clean : text.any isForbidden = false)
    (noDot : '.' ∉ text) :
    toAscii? text = (Label.read? text).bind fun label =>
      if label.isSound && directed [label] then some label.written else none := by
  unfold toAscii?
  rw [mapped]
  simp only [Option.bind_eq_bind, Option.bind_some, normalize_of_inert inert, clean,
    Text.split_of_not_mem noDot, List.mapM_cons, List.mapM_nil]
  cases hread : Label.read? text with
  | none => simp
  | some label => simp [Text.join]

theorem mapText?_of_kept {text : List Char} (h : ∀ c ∈ text, mapChar? c = some [c]) :
    mapText? text = some text := by
  have mapped : text.mapM mapChar? = some (text.map fun c => [c]) := by
    induction text with
    | nil => rfl
    | cons c rest ih =>
        simp [h c (by simp), ih fun d hd => h d (by simp [hd])]
  simp [mapText?, mapped, ← List.flatMap_def]

theorem isForbidden_of_le {c : Char} (h : 0x80 ≤ c.toNat) : isForbidden c = false := by
  have ascii : ∀ d ∈ "%#/:<>?@[\\]^|".toList, d.toNat < 0x80 := Text.forall_of_all (by decide)
  have notListed : "%#/:<>?@[\\]^|".toList.contains c = false := by
    rw [← Bool.not_eq_true, List.contains_iff_mem]
    intro hc
    have := ascii c hc
    omega
  simp only [isForbidden, notListed, Bool.or_false, Bool.or_eq_false_iff, decide_eq_false_iff_not,
    beq_eq_false_iff_ne]
  omega

private theorem joinersFit_of_none {text : List Char}
    (h : ∀ c ∈ text, isJoiner c = false ∧ isNonJoiner c = false) (before : List Char) :
    joinersFit before text = true := by
  induction text generalizing before with
  | nil => rfl
  | cons c rest ih =>
      have hc := h c (by simp)
      simp [joinersFit, hc.1, hc.2, ih fun d hd => h d (by simp [hd])]

section

variable {text : List Char} (h : ∀ c ∈ text, IsIdeograph c)

include h

private theorem isAscii_of_ideographs (hne : text ≠ []) : isAscii text = false := by
  cases text with
  | nil => exact absurd rfl hne
  | cons c rest =>
      have := (h c (by simp)).le_toNat
      have large : ¬c.toNat < 0x80 := by omega
      simp [isAscii, large]

private theorem read?_of_ideographs (hne : text ≠ []) :
    Label.read? text = some ⟨Label.codePrefix ++ Punycode.encode text, text⟩ := by
  have noPrefix : Text.after? Label.codePrefix text = none := by
    cases text with
    | nil => exact absurd rfl hne
    | cons c rest =>
        have ne : 'x' ≠ c := Ne.symm ((h c (by simp)).ne_of_lt (by decide))
        simp [Label.codePrefix, Text.after?, ne]
  rw [Label.read?, noPrefix, isAscii_of_ideographs h hne]
  simp

private theorem isSound_of_ideographs (short : text.length ≤ Label.maxLength)
    (written : List Char) :
    Label.isSound ⟨written, text⟩ = true := by
  have noMark : text.head?.any Text.Normal.isMark = false := by
    cases text with
    | nil => rfl
    | cons c rest => simp [(h c (by simp)).isMark_eq]
  have noJoiner (c) (hc : c ∈ text) : isJoiner c = false ∧ isNonJoiner c = false := by
    have joiner : c ≠ '\u200D' := (h c hc).ne_of_lt (by decide)
    have nonJoiner : c ≠ '\u200C' := (h c hc).ne_of_lt (by decide)
    simp [isJoiner, isNonJoiner, joiner, nonJoiner]
  simp [Label.isSound, noMark, joinersFit_of_none noJoiner, short]

theorem toAscii?_of_ideographs (hne : text ≠ []) (short : text.length ≤ Label.maxLength) :
    toAscii? text = some (Label.codePrefix ++ Punycode.encode text) := by
  have mapped := mapText?_of_kept fun c hc => (h c hc).mapChar?_eq
  have clean : text.any isForbidden = false := by
    rw [List.any_eq_false]
    intro c hc
    simp [isForbidden_of_le (h c hc).le_toNat]
  have noDot : '.' ∉ text := fun hmem => (h _ hmem).ne_of_lt (by decide) rfl
  have directed (written : List Char) : directed [⟨written, text⟩] = true := by
    have none : text.any isRightToLeft = false := by
      rw [List.any_eq_false]
      intro c hc
      simp [(h c hc).isRightToLeft_eq]
    simp [Domain.directed, none]
  rw [toAscii?_of_label mapped (fun c hc => (h c hc).isInert) clean noDot,
    read?_of_ideographs h hne]
  simp [isSound_of_ideographs h short, directed]

end

theorem length_longLabel : longLabel.length = 720 := by
  rw [← List.length_map Char.toNat, map_toNat_longLabel]
  decide +kernel

theorem longLabel_ne_nil : longLabel ≠ [] :=
  List.ne_nil_of_length_pos (by rw [length_longLabel]; decide)

private theorem toAscii?_longLabel : toAscii? longLabel =
    some (Label.codePrefix ++ Punycode.encode longLabel) :=
  toAscii?_of_ideographs (fun _ hc => isIdeograph_of_mem hc) longLabel_ne_nil
    (by rw [length_longLabel]; decide)

/-! ## Reading its letters -/

def longCode : List Char := Label.codePrefix ++ Punycode.encode longLabel

theorem first_of_longCode : longCode = 'x' :: 'n' :: '-' :: '-' :: Punycode.encode longLabel := rfl

def isCodeChar (c : Char) : Bool := c = '-' || Punycode.isDigitChar c

private theorem isCodeChar_of_mem {c : Char} (h : c ∈ longCode) : isCodeChar c = true := by
  rw [first_of_longCode] at h
  simp only [List.mem_cons] at h
  rcases h with rfl | rfl | rfl | rfl | h
  · decide
  · decide
  · decide
  · decide
  · rcases Punycode.mem_encode h with ⟨hmem, small⟩ | rfl | hc
    · have := not_ascii_of_mem hmem
      omega
    · decide
    · simp [isCodeChar, hc]

/-- What the readers of hosts ask of a character. -/
structure IsReadable (c : Char) : Prop where
  ascii : c.toNat < 0x80
  mapChar? : Domain.mapChar? c = some [c]
  allowed : isForbidden c = false
  inName : isInName c = true
  ne_dot : c ≠ '.'
  ne_percent : c ≠ '%'

theorem isReadable_of_mem {c : Char} (h : c ∈ longCode) : IsReadable c := by
  have check : ∀ c ∈ '-' :: "abcdefghijklmnopqrstuvwxyz0123456789".toList,
      c.toNat < 0x80 ∧ Domain.mapChar? c = some [c] ∧ isForbidden c = false ∧
        isInName c = true ∧ c ≠ '.' ∧ c ≠ '%' :=
    Text.forall_of_all (by decide +kernel)
  have hc := isCodeChar_of_mem h
  simp only [isCodeChar, Punycode.isDigitChar, Bool.or_eq_true, decide_eq_true_eq,
    List.contains_iff_mem] at hc
  obtain ⟨ascii, mapped, allowed, inName, dot, percent⟩ := check c (List.mem_cons.mpr hc)
  exact ⟨ascii, mapped, allowed, inName, dot, percent⟩

private theorem toAscii?_longCode : toAscii? longCode = none := by
  have mapped := mapText?_of_kept fun c hc => (isReadable_of_mem hc).mapChar?
  have inert (c) (hc : c ∈ longCode) := isInert_of_ascii (isReadable_of_mem hc).ascii
  have clean : longCode.any isForbidden = false := by
    rw [List.any_eq_false]
    intro c hc
    simp [(isReadable_of_mem hc).allowed]
  have noDot : '.' ∉ longCode := fun h => (isReadable_of_mem h).ne_dot rfl
  have unread : Label.read? longCode = none := by
    have after : Text.after? Label.codePrefix longCode = some (Punycode.encode longLabel) := by
      rw [first_of_longCode]
      simp [Text.after?, Label.codePrefix]
    have tooLong : Label.decode? (Punycode.encode longLabel) = none := by
      have := length_encode_longLabel
      rw [Label.decode?, if_pos (.inr (.inr this))]
      rfl
    rw [Label.read?, after]
    simp [tooLong]
  rw [toAscii?_of_label mapped inert clean noDot, unread]
  rfl

/-- The host that a domain name is read as, by its ASCII form. -/
def hostOf : Option (List Char) → Except Fault String
  | none => .error .invalidDomain
  | some [] => .error .emptyHost
  | some domain =>
      if Host.endsInNumber domain then
        match Host.ipv4? domain with
        | some address => .ok address
        | none => .error .invalidIpv4
      else .ok (String.ofList domain)

theorem special_of_toAscii? {text : List Char} (noBracket : text.head? ≠ some '[')
    (noPercent : '%' ∉ text) : Host.special text = hostOf (toAscii? text) := by
  unfold Host.special
  split
  · simp at noBracket
  · rw [decode_plain noPercent]
    exact congrArg (fun decoded => hostOf (toAscii? decoded)) String.toList_ofList

theorem special_longCode : Host.special longCode = .error .invalidDomain := by
  have noPercent : '%' ∉ longCode := fun h => (isReadable_of_mem h).ne_percent rfl
  rw [special_of_toAscii? (by rw [first_of_longCode]; simp) noPercent, toAscii?_longCode, hostOf]

private theorem special_longLabel : Host.special longLabel = .ok (String.ofList longCode) := by
  have noPercent : '%' ∉ longLabel := fun h => absurd (not_ascii_of_mem h) (by decide)
  have noBracket : longLabel.head? ≠ some '[' := by
    have : longLabel.head? = some (Char.ofNat 0x4E00) := rfl
    rw [this]
    decide
  have noNumber : Host.endsInNumber longCode = false := by
    have noDot : '.' ∉ longCode := fun h => (isReadable_of_mem h).ne_dot rfl
    rw [Host.endsInNumber, Text.split_of_not_mem noDot, first_of_longCode]
    rfl
  rw [special_of_toAscii? noBracket noPercent, toAscii?_longLabel, ← longCode]
  rw [first_of_longCode] at noNumber ⊢
  simp only [hostOf, noNumber]
  rfl

/-! ## The address -/

def longHost : String := String.ofList longCode

/-- The address as it is given, with the label in its own characters. -/
def longGiven : Url :=
  ⟨"http", "", "", some (String.ofList longLabel), none, .segments [], none, none, false⟩

def longEndpoint : Url :=
  ⟨"http", "", "", some longHost, none, .segments [""], none, none, false⟩

private theorem isWeb_longGiven : longGiven.IsWeb (String.ofList longLabel) [] where
  scheme := .inl rfl
  username _ h := nomatch h
  password _ h := nomatch h
  hasHost := rfl
  isHost := by
    rw [String.toList_ofList]
    exact .name longLabel_ne_nil fun c hc =>
      isInName_of_allowed (isForbidden_of_le (not_ascii_of_mem hc))
  port _ h := nomatch h
  hasPath := rfl
  isSegment _ h := nomatch h
  query _ h := nomatch h
  fragment _ h := nomatch h
  unguarded := rfl

theorem isWeb_longEndpoint : longEndpoint.IsWeb longHost [""] where
  scheme := .inl rfl
  username _ h := nomatch h
  password _ h := nomatch h
  hasHost := rfl
  isHost := by
    rw [longHost, String.toList_ofList]
    exact .name (by rw [first_of_longCode]; simp) fun c hc => (isReadable_of_mem hc).inName
  port _ h := nomatch h
  hasPath := rfl
  isSegment s h := by
    rw [List.mem_singleton] at h
    subst h
    exact isSegment_empty
  query _ h := nomatch h
  fragment _ h := nomatch h
  unguarded := rfl

theorem parse_longGiven : parse longGiven.text = .ok longEndpoint := by
  rw [parse_text isWeb_longGiven, String.toList_ofList, special_longLabel]
  rfl

end ObjectStorage.Url
