import ObjectStorage.Text.Split

/-!
# Quoted strings of TOML

Strings between quotes or apostrophes, one of them or three.  Between quotes a backslash escapes;
between three of either, line ends may stand, the first one after the opening is not content, and
up to two delimiters may stand before the closing.
-/

namespace ObjectStorage.Toml

def isControl (c : Char) : Bool := (c.toNat < 0x20 && c != '\t') || c.toNat == 0x7F

def hexValue? (digits : List Char) : Option Nat :=
  digits.foldlM (fun n c =>
    let m := c.toNat
    if 48 ≤ m ∧ m ≤ 57 then some (16 * n + (m - 48))
    else if 65 ≤ m ∧ m ≤ 70 then some (16 * n + (m - 55))
    else if 97 ≤ m ∧ m ≤ 102 then some (16 * n + (m - 87))
    else none) 0

/-- The character with the code point that the digits give. -/
def hexChar? (digits : List Char) : Option Char := do
  let n ← hexValue? digits
  if n.isValidChar then some (Char.ofNat n) else none

/-- The characters that one letter after a backslash stands for. -/
def shortEscapes : List (Char × Char) :=
  [('b', '\x08'), ('t', '\t'), ('n', '\n'), ('f', '\x0c'), ('r', '\r'), ('e', '\x1b'),
   ('"', '"'), ('\\', '\\')]

def endsLine (text : List Char) : Bool :=
  match text.dropWhile fun c => c = ' ' || c = '\t' with
  | '\n' :: _ | '\r' :: '\n' :: _ => true
  | _ => false

/-- After the first of three delimiters: up to two more belong to the content. -/
def closing (delimiter : Char) (rest : List Char) : Option (List Char × List Char) :=
  match rest with
  | a :: b :: rest =>
      if a = delimiter ∧ b = delimiter then
        match rest with
        | c :: d :: after =>
            if c = delimiter ∧ d = delimiter then some ([delimiter, delimiter], after)
            else if c = delimiter then some ([delimiter], d :: after)
            else some ([], rest)
        | [c] => if c = delimiter then some ([delimiter], []) else some ([], [c])
        | [] => some ([], [])
      else none
  | _ => none

/-- A line end, or a character that is no control character. -/
def isContent (multiline : Bool) (c : Char) (rest : List Char) : Bool :=
  if multiline ∧ c = '\n' then true
  else if multiline ∧ c = '\r' then rest.head? = some '\n'
  else !isControl c

/--
The content up to the closing quote, and what follows it.  While `trimming`, blanks and line ends
are passed over, as a backslash at the end of a line demands.
-/
def readBasic (multiline trimming : Bool) : List Char → Option (List Char × List Char)
  | [] => none
  | c :: rest =>
      let keep : Char → Option (List Char × List Char) → Option (List Char × List Char) :=
        fun c read => read.map fun (content, after) => (c :: content, after)
      if trimming ∧ (c = ' ' ∨ c = '\t' ∨ c = '\n' ∨ c = '\r' ∧ rest.head? = some '\n') then
        readBasic multiline true rest
      else if c = '"' then
        if multiline then
          match closing '"' rest with
          | some read => some read
          | none => keep c (readBasic multiline false rest)
        else some ([], rest)
      else if c = '\\' then
        match rest with
        | [] => none
        | letter :: after =>
            if multiline ∧ endsLine rest then readBasic multiline true (letter :: after)
            else match shortEscapes.lookup letter with
              | some escaped => keep escaped (readBasic multiline false after)
              | none =>
                  match letter, after with
                  | 'x', a :: b :: after =>
                      match hexChar? [a, b] with
                      | some c => keep c (readBasic multiline false after)
                      | none => none
                  | 'u', a :: b :: c :: d :: after =>
                      match hexChar? [a, b, c, d] with
                      | some c => keep c (readBasic multiline false after)
                      | none => none
                  | 'U', a :: b :: c :: d :: e :: f :: g :: h :: after =>
                      match hexChar? [a, b, c, d, e, f, g, h] with
                      | some c => keep c (readBasic multiline false after)
                      | none => none
                  | _, _ => none
      else if isContent multiline c rest then keep c (readBasic multiline false rest)
      else none

/-- The content up to the closing apostrophe, and what follows it. -/
def readLiteral (multiline : Bool) : List Char → Option (List Char × List Char)
  | [] => none
  | c :: rest =>
      let keep : Option (List Char × List Char) → Option (List Char × List Char) :=
        fun read => read.map fun (content, after) => (c :: content, after)
      if c = '\x27' then
        if multiline then
          match closing '\x27' rest with
          | some read => some read
          | none => keep (readLiteral multiline rest)
        else some ([], rest)
      else if isContent multiline c rest then keep (readLiteral multiline rest)
      else none

/-- What follows a line end that stands first. -/
def dropLineEnd (text : List Char) : List Char :=
  match text with
  | '\n' :: rest => rest
  | '\r' :: '\n' :: rest => rest
  | _ => text

def readLine? (text : List Char) : Option (List Char × List Char) :=
  match text with
  | '"' :: rest => readBasic false false rest
  | '\x27' :: rest => readLiteral false rest
  | _ => none

def readQuoted? (text : List Char) : Option (List Char × List Char) :=
  match text with
  | '"' :: '"' :: '"' :: rest => readBasic true false (dropLineEnd rest)
  | '\x27' :: '\x27' :: '\x27' :: rest => readLiteral true (dropLineEnd rest)
  | _ => readLine? text

end ObjectStorage.Toml
