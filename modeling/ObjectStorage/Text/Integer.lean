/-!
# Reading and writing integers

Decimal integers with an optional sign, held to a range.  Digits are taken from the left, and the
first one that is none or leaves the range decides the error.
-/

namespace ObjectStorage.Integer

inductive Fault where
  | invalidDigit
  | tooLarge
  | tooSmall
  deriving DecidableEq, Repr

def Fault.message : Fault → String
  | .invalidDigit => "invalid digit found in string"
  | .tooLarge => "number too large to fit in target type"
  | .tooSmall => "number too small to fit in target type"

def digit? (c : Char) : Option Nat :=
  if 48 ≤ c.toNat ∧ c.toNat ≤ 57 then some (c.toNat - 48) else none

def isDigit (c : Char) : Bool := (digit? c).isSome

/-- The number that the digits `read` so far go on to; `beyond` if it exceeds the limit. -/
def readDigits (limit : Nat) (beyond : Fault) (read : Nat) : List Char → Except Fault Nat
  | [] => .ok read
  | c :: rest =>
      match digit? c with
      | none => .error .invalidDigit
      | some d =>
          if limit < 10 * read + d then .error beyond
          else readDigits limit beyond (10 * read + d) rest

/-- Digits without a sign, at least one. -/
def readNonempty (limit : Nat) (beyond : Fault) : List Char → Except Fault Nat
  | [] => .error .invalidDigit
  | digits => readDigits limit beyond 0 digits

/-- A number from 0 to `limit`, which a plus sign may precede. -/
def readUnsigned (limit : Nat) : List Char → Except Fault Nat
  | '+' :: digits => readNonempty limit .tooLarge digits
  | digits => readNonempty limit .tooLarge digits

/-- A number from `-(limit + 1)` to `limit`, which a sign may precede. -/
def readSigned (limit : Nat) : List Char → Except Fault Int
  | '+' :: digits => (readNonempty limit .tooLarge digits).map Int.ofNat
  | '-' :: digits => (readNonempty (limit + 1) .tooSmall digits).map fun n => -(Int.ofNat n)
  | digits => (readNonempty limit .tooLarge digits).map Int.ofNat

def maxWord : Nat := 0xFFFFFFFFFFFFFFFF

def readWord (text : String) : Except Fault UInt64 :=
  (readUnsigned maxWord text.toList).map UInt64.ofNat

def maxSignedWord : Nat := 0x7FFFFFFFFFFFFFFF

def readSignedWord (text : String) : Except Fault Int :=
  readSigned maxSignedWord text.toList

def writeNat (n : Nat) : String := String.ofList (Nat.toDigits 10 n)

def writeInt : Int → String
  | .ofNat n => writeNat n
  | .negSucc n => String.ofList ('-' :: Nat.toDigits 10 (n + 1))

/-! ## Reading what was written -/

private theorem readDigits_append (limit : Nat) (beyond : Fault) (read : Nat)
    (first second : List Char) : readDigits limit beyond read (first ++ second) =
      (readDigits limit beyond read first).bind fun n => readDigits limit beyond n second := by
  induction first generalizing read with
  | nil => rfl
  | cons c rest ih =>
      simp only [List.cons_append, readDigits]
      cases digit? c with
      | none => rfl
      | some d =>
          simp only
          split
          · rfl
          · exact ih _

private theorem digit?_digitChar : ∀ d < 10, digit? d.digitChar = some d := by decide

theorem readDigits_toDigits {limit : Nat} (beyond : Fault) {n : Nat} (h : n ≤ limit) :
    readDigits limit beyond 0 (Nat.toDigits 10 n) = .ok n := by
  induction n using Nat.strongRecOn with
  | ind n ih =>
      by_cases small : n < 10
      · rw [Nat.toDigits_of_lt_base small]
        simp [readDigits, digit?_digitChar n small, Nat.not_lt.mpr h]
      · have base := Nat.toDigits_of_base_le (b := 10) (n := n) (by omega) (by omega)
        rw [base, readDigits_append, ih (n / 10) (by omega) (by omega)]
        have value : 10 * (n / 10) + n % 10 = n := by omega
        simp [Except.bind, readDigits, digit?_digitChar (n % 10) (by omega), value,
          Nat.not_lt.mpr h]

theorem isDigit_of_mem_toDigits {c : Char} {n : Nat} (h : c ∈ Nat.toDigits 10 n) :
    48 ≤ c.toNat ∧ c.toNat ≤ 57 := by
  have := Nat.isDigit_of_mem_toDigits (by omega) (by omega) h
  simpa [Char.isDigit, UInt32.le_iff_toNat_le] using this

private theorem readUnsigned_of_digits (limit : Nat) {digits : List Char} (hne : digits ≠ [])
    (h : ∀ c ∈ digits, 48 ≤ c.toNat ∧ c.toNat ≤ 57) :
    readUnsigned limit digits = readDigits limit .tooLarge 0 digits := by
  cases digits with
  | nil => exact absurd rfl hne
  | cons c rest =>
      have hc := h c List.mem_cons_self
      have plus : c ≠ '+' := fun heq => by
        rw [heq] at hc
        exact absurd hc.1 (by decide)
      unfold readUnsigned
      split
      · next heq => exact absurd (List.cons.inj heq).1 plus
      · rfl

private theorem readUnsigned_writeNat {limit n : Nat} (h : n ≤ limit) :
    readUnsigned limit (writeNat n).toList = .ok n := by
  rw [writeNat, String.toList_ofList,
    readUnsigned_of_digits limit Nat.toDigits_ne_nil fun c hc => isDigit_of_mem_toDigits hc,
    readDigits_toDigits .tooLarge h]

theorem readWord_writeNat (n : UInt64) : readWord (writeNat n.toNat) = .ok n := by
  have bound : n.toNat ≤ maxWord := by
    have := n.toNat_lt
    simp only [maxWord]
    omega
  simp [readWord, readUnsigned_writeNat bound, Except.map]

end ObjectStorage.Integer
