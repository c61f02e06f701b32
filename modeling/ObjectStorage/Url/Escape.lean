import ObjectStorage.Text.Percent

/-!
# Bytes that are escaped in each part of a URL

Each part keeps apart the characters that would end it or that other programs stumble on.  Tabs and
line ends are never content, wherever they stand.
-/

namespace ObjectStorage.Url

def isControl (byte : UInt8) : Bool := byte < 0x20 || 0x7F ≤ byte

def among (characters : String) (byte : UInt8) : Bool :=
  characters.toList.any fun c => c.toNat == byte.toNat

def escapedInFragment (byte : UInt8) : Bool := isControl byte || among " \"<>`" byte

def escapedInQuery (byte : UInt8) : Bool := isControl byte || among " \"#<>" byte

def escapedInSpecialQuery (byte : UInt8) : Bool := escapedInQuery byte || among "'" byte

def escapedInPath (byte : UInt8) : Bool := escapedInFragment byte || among "#?\x7b\x7d" byte

def escapedInSegment (byte : UInt8) : Bool := escapedInPath byte || among "/%" byte

def escapedInSpecialSegment (byte : UInt8) : Bool := escapedInSegment byte || among "\\" byte

def escapedInUserinfo (byte : UInt8) : Bool := escapedInPath byte || among "/:;=@[\\]^|" byte

def isTabOrLineEnd (c : Char) : Bool := c = '\t' || c = '\n' || c = '\r'

def content (text : List Char) : List Char := text.filter fun c => !isTabOrLineEnd c

def escaped (escapes : UInt8 → Bool) (text : List Char) : String :=
  String.ofList (Percent.encode escapes (content text))

end ObjectStorage.Url
