import ObjectStorage.Json.Token
import ObjectStorage.Text.Integer

/-!
# Values of JSON

Tokens are put together with a stack of the arrays and objects that are still open, so that the
depth of a document does not matter.  Strings are decoded when they are asked for.
-/

namespace ObjectStorage

inductive Json where
  | null
  | bool (value : Bool)
  | number (digits : Bytes)
  | string (written : Bytes)
  | array (items : List Json)
  | object (members : List (Bytes × Json))

namespace Json

/-! ## From tokens -/

/-- An array or object that is still open; what it holds so far is in reverse. -/
inductive Open where
  | array (items : List Json)
  | object (members : List (Bytes × Json)) (key : Bytes)

inductive Expected where
  | value
  /-- The first value of an array, or its end. -/
  | valueOrEnd
  /-- The first key of an object, or its end. -/
  | keyOrEnd (members : List (Bytes × Json))
  | key (members : List (Bytes × Json))
  | colon (members : List (Bytes × Json)) (key : Bytes)
  | afterValue (value : Json)

def start (token : Token) (opened : List Open) : Option (Expected × List Open) :=
  match token with
  | .null => some (.afterValue .null, opened)
  | .bool value => some (.afterValue (.bool value), opened)
  | .number digits => some (.afterValue (.number digits), opened)
  | .string written => some (.afterValue (.string written), opened)
  | .openBracket => some (.valueOrEnd, .array [] :: opened)
  | .openBrace => some (.keyOrEnd [], opened)
  | _ => none

def step (expected : Expected) (opened : List Open) (token : Token) :
    Option (Expected × List Open) :=
  match expected, opened, token with
  | .value, _, _ => start token opened
  | .valueOrEnd, .array _ :: outer, .closeBracket => some (.afterValue (.array []), outer)
  | .valueOrEnd, _, _ => start token opened
  | .keyOrEnd members, _, .closeBrace => some (.afterValue (.object members.reverse), opened)
  | .keyOrEnd members, _, .string key => some (.colon members key, opened)
  | .key members, _, .string key => some (.colon members key, opened)
  | .colon members key, _, .colon => some (.value, .object members key :: opened)
  | .afterValue value, .array items :: outer, .comma =>
      some (.value, .array (value :: items) :: outer)
  | .afterValue value, .array items :: outer, .closeBracket =>
      some (.afterValue (.array (value :: items).reverse), outer)
  | .afterValue value, .object members key :: outer, .comma =>
      some (.key ((key, value) :: members), outer)
  | .afterValue value, .object members key :: outer, .closeBrace =>
      some (.afterValue (.object ((key, value) :: members).reverse), outer)
  | _, _, _ => none

def ofTokensFrom (expected : Expected) (opened : List Open) : List Token → Option Json
  | [] =>
      match expected, opened with
      | .afterValue value, [] => some value
      | _, _ => none
  | token :: tokens =>
      match step expected opened token with
      | some (expected, opened) => ofTokensFrom expected opened tokens
      | none => none

def ofTokens? (tokens : List Token) : Option Json := ofTokensFrom .value [] tokens

def parse? (bytes : Bytes) : Option Json := (tokens? bytes).bind ofTokens?

/-! ## Strings and numbers -/

def hexValue (digits : Bytes) : Nat :=
  digits.foldl (fun n digit => 16 * n + (Percent.digitValue? digit).getD 0) 0

def shortEscapeValue (escape : UInt8) : UInt8 :=
  if escape = 98 then 8
  else if escape = 102 then 12
  else if escape = 110 then 10
  else if escape = 114 then 13
  else if escape = 116 then 9
  else escape

/-- The bytes that a written string stands for; a surrogate must be one of a pair. -/
def unescape : Bytes → Option Bytes
  | [] => some []
  | 92 :: 117 :: a :: b :: c :: d :: rest =>
      let unit := hexValue [a, b, c, d]
      if unit < 0xD800 ∨ 0xDFFF < unit then
        (unescape rest).map (String.utf8EncodeChar (Char.ofNat unit) ++ ·)
      else match rest with
        | 92 :: 117 :: e :: f :: g :: h :: rest =>
            let low := hexValue [e, f, g, h]
            if unit ≤ 0xDBFF ∧ 0xDC00 ≤ low ∧ low ≤ 0xDFFF then
              let c := Char.ofNat (0x10000 + (unit - 0xD800) * 0x400 + (low - 0xDC00))
              (unescape rest).map (String.utf8EncodeChar c ++ ·)
            else none
        | _ => none
  | 92 :: escape :: rest => (unescape rest).map (shortEscapeValue escape :: ·)
  | byte :: rest => (unescape rest).map (byte :: ·)

def textOf? (written : Bytes) : Option String := (unescape written).bind Utf8.decode?

def text? : Json → Option String
  | .string written => textOf? written
  | _ => none

/-- A number written as an integer without a sign, if it has at most 64 bits. -/
def word? : Json → Option UInt64
  | .number digits =>
      match Integer.readNonempty Integer.maxWord .tooLarge
          (digits.map fun byte => Char.ofNat byte.toNat) with
      | .ok n => some (UInt64.ofNat n)
      | .error _ => none
  | _ => none

def list? {α : Type} (item? : Json → Option α) : Json → Option (List α)
  | .array items => items.mapM item?
  | _ => none

def pair? {α β : Type} (first? : Json → Option α) (second? : Json → Option β) :
    Json → Option (α × β)
  | .array [first, second] => do return (← first? first, ← second? second)
  | _ => none

def nullable? {α : Type} (value? : Json → Option α) : Json → Option (Option α)
  | .null => some none
  | value => (value? value).map some

/-! ## Records -/

/-- The values of the fields that are present, for an object whose known keys are not repeated. -/
def membersFor (names : List String) (members : List (Bytes × Json)) :
    Option (List (Option Json)) := do
  let keyed ← members.mapM fun (key, value) => (textOf? key).map (·, value)
  names.mapM fun name =>
    match keyed.filter fun entry => entry.1 == name with
    | [] => some none
    | [(_, value)] => some (some value)
    | _ => none

/--
The fields of a record: the members of an object by name, or the items of an array by position, of
which there may be fewer but not more.
-/
def fields? (names : List String) : Json → Option (List (Option Json))
  | .object members => membersFor names members
  | .array items =>
      if names.length < items.length then none
      else some (items.map some ++ List.replicate (names.length - items.length) none)
  | _ => none

def required? {α : Type} (value? : Json → Option α) : Option Json → Option α
  | some value => value? value
  | none => none

def defaulted? {α : Type} (fallback : α) (value? : Json → Option α) : Option Json → Option α
  | some value => value? value
  | none => some fallback

end Json

end ObjectStorage
