import ObjectStorage.Text.Percent
import ObjectStorage.Text.Split

/-!
# Form encoding of queries

Pairs of texts joined as `key=value` with `&`; a space is written `+`, and all but letters, digits
and `*-._` is percent-encoded.
-/

namespace ObjectStorage.Form

def isPlain (byte : UInt8) : Bool :=
  let n := byte.toNat
  (48 ≤ n && n ≤ 57) || (65 ≤ n && n ≤ 90) || (97 ≤ n && n ≤ 122) ||
    n == 42 || n == 45 || n == 46 || n == 95

def encodeByte (byte : UInt8) : List Char :=
  if byte = 32 then ['+'] else Percent.encodeByte (fun b => !isPlain b) byte

def encodeText (text : String) : List Char := (Utf8.ofText text).flatMap encodeByte

def encodePair (pair : String × String) : List Char :=
  encodeText pair.1 ++ '=' :: encodeText pair.2

/-- The pairs in their order, separated by `&`. -/
def encode (pairs : List (String × String)) : List Char :=
  Text.join '&' (pairs.map encodePair)

/-! ## Decoding -/

def decodeText (text : List Char) : String :=
  Utf8.decodeLossy (Percent.decodeBytes (Utf8.encode (text.map fun c => if c = '+' then ' ' else c)))

def decodePair (text : List Char) : String × String :=
  match Text.cut? '=' text with
  | some (key, value) => (decodeText key, decodeText value)
  | none => (decodeText text, "")

/-- The pairs of a query; empty pieces between separators are none. -/
def decode (query : List Char) : List (String × String) :=
  ((Text.split '&' query).filter fun piece => !piece.isEmpty).map decodePair

end ObjectStorage.Form
