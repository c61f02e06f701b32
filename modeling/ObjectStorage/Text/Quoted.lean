import ObjectStorage.Text.Shown

/-!
# Quoted text

How messages quote a text: in double quotes, with `\` before `"` and `\`, short escapes for tab,
line feed, carriage return and NUL, and `\u` with the code point in braces for every other
character that is not shown as itself.
-/

namespace ObjectStorage.Text

def hexDigits (n : Nat) : List Char := Nat.toDigits 16 n

def quoteChar (c : Char) : List Char :=
  if c = '"' ∨ c = '\\' then ['\\', c]
  else if c = '\t' then ['\\', 't']
  else if c = '\n' then ['\\', 'n']
  else if c = '\r' then ['\\', 'r']
  else if c.toNat = 0 then ['\\', '0']
  else if isShown c then [c]
  else ['\\', 'u', '\x7b'] ++ hexDigits c.toNat ++ ['\x7d']

def quote (text : String) : String :=
  String.ofList ('"' :: text.toList.flatMap quoteChar ++ ['"'])

end ObjectStorage.Text
