import ObjectStorage.Text.Split

/-!
# White space

The characters with the property White_Space, which trimming takes off both ends of a text.
-/

namespace ObjectStorage.Text

def isBlank (c : Char) : Bool :=
  let n := c.toNat
  (0x9 ≤ n && n ≤ 0xD) || n == 0x20 || n == 0x85 || n == 0xA0 || n == 0x1680 ||
    (0x2000 ≤ n && n ≤ 0x200A) || n == 0x2028 || n == 0x2029 || n == 0x202F || n == 0x205F ||
    n == 0x3000

def trimBlanks (text : String) : String := trimString isBlank text

def firstWord (text : String) : String :=
  String.ofList ((text.toList.dropWhile isBlank).takeWhile fun c => !isBlank c)

end ObjectStorage.Text
