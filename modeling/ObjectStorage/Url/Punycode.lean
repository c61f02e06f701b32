import ObjectStorage.Text.Split

/-!
# Punycode

The letters of ASCII for a label of any characters: the ASCII ones first, then for each of the
others, in increasing order, how far along the label it is put in.
-/

namespace ObjectStorage.Url.Punycode

def digit (n : Nat) : Char := if n < 26 then Char.ofNat (97 + n) else Char.ofNat (22 + n)

/-- Where the thresholds rise for distances of the given size. -/
def biasFor (delta : Nat) : Nat :=
  if 455 < delta then 36 + biasFor (delta / 35) else 36 * delta / (delta + 38)
termination_by delta

/-- The bias after a distance; the first distance of a label counts less than the later ones. -/
def adapt (delta count : Nat) (isFirst : Bool) : Nat :=
  let damped := if isFirst then delta / 700 else delta / 2
  biasFor (damped + damped / count)

/-- The least digit at place `k` that does not end a number. -/
def threshold (k bias : Nat) : Nat :=
  if k ≤ bias then 1 else if bias + 26 ≤ k then 26 else k - bias

theorem threshold_pos (k bias : Nat) : 0 < threshold k bias := by
  unfold threshold
  split
  · exact Nat.one_pos
  · split <;> omega

/-! ## Writing -/

/-- A number in digits whose base depends on the place, from place `k` on. -/
def varyingDigits (bias k n : Nat) : List Char :=
  let t := threshold k bias
  if n < t then [digit n]
  else digit (t + (n - t) % (36 - t)) :: varyingDigits bias (k + 36) ((n - t) / (36 - t))
termination_by n
decreasing_by
  have := threshold_pos k bias
  have := Nat.div_le_self (n - threshold k bias) (36 - threshold k bias)
  omega

structure State where
  delta : Nat
  bias : Nat
  handled : Nat
  isFirst : Bool
  output : List Char

/-- Passes once over the label and writes the distance at each place of the character `n`. -/
def visit (n : Nat) (state : State) (c : Nat) : State :=
  if c < n then { state with delta := state.delta + 1 }
  else if c = n then
    { delta := 0
      bias := adapt state.delta (state.handled + 1) state.isFirst
      handled := state.handled + 1
      isFirst := false
      output := state.output ++ varyingDigits state.bias 36 state.delta }
  else state

/-- Goes on from the character `last` to the next greater one of the label. -/
def handle (label : List Nat) (state : State) (last next : Nat) : State :=
  let delta := state.delta + (next - last - 1) * (state.handled + 1)
  let visited := label.foldl (visit next) { state with delta := delta }
  { visited with delta := visited.delta + 1 }

def insertSorted (n : Nat) : List Nat → List Nat
  | [] => [n]
  | m :: rest =>
      if n < m then n :: m :: rest
      else if n = m then m :: rest
      else m :: insertSorted n rest

def handleAll (label : List Nat) (state : State) (last : Nat) : List Nat → State
  | [] => state
  | next :: rest => handleAll label (handle label state last next) next rest

def encode (label : List Char) : List Char :=
  let basic := label.filter fun c => c.toNat < 128
  let codes := label.map Char.toNat
  let others := (codes.filter (128 ≤ ·)).foldr insertSorted []
  let start := if basic.isEmpty then [] else basic ++ ['-']
  let state : State :=
    { delta := 0, bias := 72, handled := basic.length, isFirst := true, output := start }
  (handleAll codes state 127 others).output

/-! ## Reading -/

def digitValue? (c : Char) : Option Nat :=
  if c.isLower then some (c.toNat - 97)
  else if c.isUpper then some (c.toNat - 65)
  else if c.isDigit then some (c.toNat - 22)
  else none

def maxNumber : Nat := 0xFFFFFFFF

/-- Adds a number in varying digits to `n`: the sum, and what follows the number. -/
def readVarying? (bias k weight n : Nat) : List Char → Option (Nat × List Char)
  | [] => none
  | c :: rest =>
      match digitValue? c with
      | none => none
      | some digit =>
          let t := threshold k bias
          if maxNumber < n + digit * weight then none
          else if digit < t then some (n + digit * weight, rest)
          else if maxNumber < weight * (36 - t) then none
          else readVarying? bias (k + 36) (weight * (36 - t)) (n + digit * weight) rest

theorem length_lt_of_readVarying? {bias k weight n m : Nat} {text rest : List Char}
    (h : readVarying? bias k weight n text = some (m, rest)) : rest.length < text.length := by
  induction text generalizing k weight n with
  | nil => simp [readVarying?] at h
  | cons c text ih =>
      simp only [readVarying?] at h
      split at h
      · exact nomatch h
      · split at h
        · exact nomatch h
        · split at h
          · simp_all
          · split at h
            · exact nomatch h
            · exact Nat.lt_succ_of_lt (ih h)

/--
Puts characters into the label, as long as there are numbers: `place` is where the last one was put
in and `point` its code point.
-/
def decodeFrom (label : List Char) (bias point place : Nat) (text : List Char) :
    Option (List Char) :=
  if text.isEmpty then some label
  else match h : readVarying? bias 36 1 place text with
    | none => none
    | some (n, rest) =>
        let count := label.length + 1
        let point := point + n / count
        let bias := adapt (n - place) count (place == 0)
        if point.isValidChar then
          let place := n % count
          let label := label.take place ++ Char.ofNat point :: label.drop place
          decodeFrom label bias point (place + 1) rest
        else none
termination_by text.length
decreasing_by exact length_lt_of_readVarying? h

/-- The label that the letters stand for; the last hyphen ends the letters that are its own. -/
def decode? (text : List Char) : Option (List Char) :=
  match Text.cutLast? '-' text with
  | none => decodeFrom [] 72 128 0 text
  | some ([], _) => none
  | some (basic, rest) => decodeFrom basic 72 128 0 rest

end ObjectStorage.Url.Punycode
