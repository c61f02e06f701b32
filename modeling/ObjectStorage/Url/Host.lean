import ObjectStorage.Text.Casing
import ObjectStorage.Url.Basic
import ObjectStorage.Url.Domain

/-!
# Hosts of URLs

A host is a domain name, an address of four bytes, or an address of eight 16-bit pieces in square
brackets; schemes without rules of their own have any text as a host.
-/

namespace ObjectStorage.Url

inductive Fault where
  | relativeWithoutBase
  | emptyHost
  | invalidPort
  | invalidDomain
  | invalidDomainCharacter
  | invalidIpv4
  | invalidIpv6
  deriving DecidableEq, Repr

def Fault.message : Fault → String
  | .relativeWithoutBase => "relative URL without a base"
  | .emptyHost => "empty host"
  | .invalidPort => "invalid port number"
  | .invalidDomain => "invalid international domain name"
  | .invalidDomainCharacter => "invalid domain character"
  | .invalidIpv4 => "invalid IPv4 address"
  | .invalidIpv6 => "invalid IPv6 address"

namespace Host

/-! ## Four-byte addresses -/

/-- The value of the digits in a base up to 16. -/
def numeral? (base : Nat) (digits : List Char) : Option Nat :=
  digits.foldlM (fun n c => do
    let d ← Percent.digitValue? (UInt8.ofNat c.toNat)
    if c.toNat < 128 ∧ d < base then some (base * n + d) else none) 0

/-- A part of an address: hexadecimal after `0x`, octal after `0`, else decimal. -/
def ipv4Number? (part : List Char) : Option Nat :=
  match part with
  | [] => none
  | '0' :: 'x' :: digits | '0' :: 'X' :: digits => numeral? 16 digits
  | '0' :: digit :: digits => numeral? 8 (digit :: digits)
  | digits => numeral? 10 digits

/-- Whether the last label, one empty label after it aside, is a number. -/
def endsInNumber (domain : List Char) : Bool :=
  let labels := (Text.split '.' domain).reverse
  let last := match labels with
    | [] :: next :: _ => next
    | label :: _ => label
    | [] => []
  (!last.isEmpty && last.all Integer.isDigit) || (ipv4Number? last).isSome

/-- The value of an address whose last part fills all the bytes that the others leave. -/
def ipv4Value? : List Nat → Option Nat
  | [] => none
  | parts =>
      let last := parts.getLast?.getD 0
      let front := parts.dropLast
      if 4 < parts.length ∨ front.any (255 < ·) ∨ Nat.pow 256 (4 - front.length) ≤ last then none
      else some (front.foldl (fun n part => 256 * n + part) 0 * Nat.pow 256 (4 - front.length) + last)

def ipv4Text (value : Nat) : String :=
  String.intercalate "." ([16777216, 65536, 256, 1].map fun unit =>
    Integer.writeNat (value / unit % 256))

def ipv4? (domain : List Char) : Option String := do
  let labels := Text.split '.' domain
  let labels := if labels.getLast? = some [] then labels.dropLast else labels
  let parts ← labels.mapM ipv4Number?
  let value ← ipv4Value? parts
  return ipv4Text value

/-! ## Addresses of eight pieces -/

/-- One to four hexadecimal digits. -/
def ipv6Piece? (digits : List Char) : Option Nat :=
  if digits.isEmpty ∨ 4 < digits.length then none else numeral? 16 digits

/-- A decimal byte without leading zeros. -/
def byte? (digits : List Char) : Option Nat := do
  if digits.isEmpty ∨ 3 < digits.length ∨ (digits.head? = some '0' ∧ 1 < digits.length) then none
  let n ← numeral? 10 digits
  if n < 256 then some n else none

/-- The last piece of a side may be a four-byte address, which counts as two pieces. -/
def lastPieces? (text : List Char) : Option (List Nat) :=
  if text.contains '.' then do
    let bytes ← (Text.split '.' text).mapM byte?
    match bytes with
    | [a, b, c, d] => some [256 * a + b, 256 * c + d]
    | _ => none
  else (ipv6Piece? text).map ([·])

def sidePieces? (text : List Char) : Option (List Nat) :=
  if text.isEmpty then some []
  else do
    let parts := Text.split ':' text
    let front ← parts.dropLast.mapM ipv6Piece?
    let last ← lastPieces? (parts.getLast?.getD [])
    return front ++ last

/-- What stands before and after the first two colons in a row. -/
def cutDoubleColon? : List Char → Option (List Char × List Char)
  | [] => none
  | ':' :: ':' :: rest => some ([], rest)
  | c :: rest => (cutDoubleColon? rest).map fun (before, after) => (c :: before, after)

/-- Eight pieces, of which two colons in a row leave out a run of zeros. -/
def ipv6Pieces? (text : List Char) : Option (List Nat) := do
  match cutDoubleColon? text with
  | none =>
      let pieces ← sidePieces? text
      if pieces.length = 8 then some pieces else none
  | some (before, after) =>
      if before.contains '.' then none
      let front ← sidePieces? before
      let back ← sidePieces? after
      let missing := 8 - (front.length + back.length)
      if missing = 0 then none else some (front ++ List.replicate missing 0 ++ back)

/-- The longest run of zeros from a position on, as start and length; the first of equals wins. -/
def longestZeros (position : Nat) : List Nat → Nat × Nat
  | [] => (position, 0)
  | piece :: rest =>
      let later := longestZeros (position + 1) rest
      let run := ((piece :: rest).takeWhile (· = 0)).length
      if later.2 ≤ run then (position, run) else later

def hexPieces (pieces : List Nat) : String :=
  String.intercalate ":" (pieces.map fun piece => String.ofList (Nat.toDigits 16 piece))

/-- The longest run of two or more zeros is left out. -/
def ipv6Text (pieces : List Nat) : String :=
  let (start, length) := longestZeros 0 pieces
  if length < 2 then hexPieces pieces
  else hexPieces (pieces.take start) ++ "::" ++ hexPieces (pieces.drop (start + length))

def ipv6 (text : List Char) : Except Fault String :=
  match text.getLast? with
  | some ']' =>
      match ipv6Pieces? text.dropLast with
      | some pieces => .ok ("[" ++ ipv6Text pieces ++ "]")
      | none => .error .invalidIpv6
  | _ => .error .invalidIpv6

/-! ## Hosts -/

def special (text : List Char) : Except Fault String :=
  match text with
  | '[' :: rest => ipv6 rest
  | _ =>
      match Utf8.decode? (Percent.decodeBytes (Utf8.encode text)) with
      | none => .error .invalidDomain
      | some decoded =>
          match Domain.toAscii? decoded.toList with
          | none => .error .invalidDomain
          | some [] => .error .emptyHost
          | some domain =>
              if endsInNumber domain then
                match ipv4? domain with
                | some address => .ok address
                | none => .error .invalidIpv4
              else .ok (String.ofList domain)

def isForbiddenInHost (c : Char) : Bool :=
  c.toNat == 0 || "\t\n\r #/:<>?@[\\]^|".toList.contains c

def other (text : List Char) : Except Fault String :=
  match text with
  | '[' :: rest => ipv6 rest
  | _ =>
      if text.any isForbiddenInHost then .error .invalidDomainCharacter
      else .ok (escaped isControl text)

end Host

end ObjectStorage.Url
