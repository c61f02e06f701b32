import ObjectStorage.Text.Percent

/-!
# MD5

The digest as a running computation: bytes are fed one at a time into blocks of 64, each full block
is mixed into four words, and closing pads the last block with the length.  `absorb_append` says
that only the concatenation of what was fed matters, not how it was cut.
-/

namespace ObjectStorage.Md5

structure Words where
  a : UInt32
  b : UInt32
  c : UInt32
  d : UInt32
  deriving DecidableEq, Repr

structure Digest where
  words : Words
  /-- The bytes of the block that is not full yet, the latest first. -/
  pending : Bytes
  length : Nat
  deriving DecidableEq, Repr

def initial : Digest := ⟨⟨0x67452301, 0xEFCDAB89, 0x98BADCFE, 0x10325476⟩, [], 0⟩

/-! ## Mixing a block -/

/-- The rotation and the constant of each of the 64 steps. -/
def steps : List (UInt32 × UInt32) := [
  (7, 0xD76AA478), (12, 0xE8C7B756), (17, 0x242070DB), (22, 0xC1BDCEEE),
  (7, 0xF57C0FAF), (12, 0x4787C62A), (17, 0xA8304613), (22, 0xFD469501),
  (7, 0x698098D8), (12, 0x8B44F7AF), (17, 0xFFFF5BB1), (22, 0x895CD7BE),
  (7, 0x6B901122), (12, 0xFD987193), (17, 0xA679438E), (22, 0x49B40821),
  (5, 0xF61E2562), (9, 0xC040B340), (14, 0x265E5A51), (20, 0xE9B6C7AA),
  (5, 0xD62F105D), (9, 0x02441453), (14, 0xD8A1E681), (20, 0xE7D3FBC8),
  (5, 0x21E1CDE6), (9, 0xC33707D6), (14, 0xF4D50D87), (20, 0x455A14ED),
  (5, 0xA9E3E905), (9, 0xFCEFA3F8), (14, 0x676F02D9), (20, 0x8D2A4C8A),
  (4, 0xFFFA3942), (11, 0x8771F681), (16, 0x6D9D6122), (23, 0xFDE5380C),
  (4, 0xA4BEEA44), (11, 0x4BDECFA9), (16, 0xF6BB4B60), (23, 0xBEBFBC70),
  (4, 0x289B7EC6), (11, 0xEAA127FA), (16, 0xD4EF3085), (23, 0x04881D05),
  (4, 0xD9D4D039), (11, 0xE6DB99E5), (16, 0x1FA27CF8), (23, 0xC4AC5665),
  (6, 0xF4292244), (10, 0x432AFF97), (15, 0xAB9423A7), (21, 0xFC93A039),
  (6, 0x655B59C3), (10, 0x8F0CCC92), (15, 0xFFEFF47D), (21, 0x85845DD1),
  (6, 0x6FA87E4F), (10, 0xFE2CE6E0), (15, 0xA3014314), (21, 0x4E0811A1),
  (6, 0xF7537E82), (10, 0xBD3AF235), (15, 0x2AD7D2BB), (21, 0xEB86D391)]

def rotateLeft (word amount : UInt32) : UInt32 :=
  word <<< amount ||| word >>> (32 - amount)

/-- The mixing function of a step, and the word of the block that it takes. -/
def selected (words : Words) (step : Nat) : UInt32 × Nat :=
  let ⟨_, b, c, d⟩ := words
  if step < 16 then ((b &&& c) ||| (~~~b &&& d), step)
  else if step < 32 then ((d &&& b) ||| (~~~d &&& c), (5 * step + 1) % 16)
  else if step < 48 then (b ^^^ c ^^^ d, (3 * step + 5) % 16)
  else (c ^^^ (b ||| ~~~d), 7 * step % 16)

def mixStep (block : Array UInt32) (words : Words) (step : Nat) (rotation constant : UInt32) :
    Words :=
  let (mixed, index) := selected words step
  let sum := words.a + mixed + constant + block.getD index 0
  ⟨words.d, words.b + rotateLeft sum rotation, words.b, words.c⟩

def wordOf (a b c d : UInt8) : UInt32 :=
  a.toUInt32 ||| b.toUInt32 <<< 8 ||| c.toUInt32 <<< 16 ||| d.toUInt32 <<< 24

def wordsOf : Bytes → List UInt32
  | a :: b :: c :: d :: rest => wordOf a b c d :: wordsOf rest
  | _ => []

def mixBlock (words : Words) (bytes : Bytes) : Words :=
  let block := (wordsOf bytes).toArray
  let mixed := (steps.zipIdx).foldl
    (fun mixed entry => mixStep block mixed entry.2 entry.1.1 entry.1.2) words
  ⟨words.a + mixed.a, words.b + mixed.b, words.c + mixed.c, words.d + mixed.d⟩

/-! ## Feeding and closing -/

def feed (digest : Digest) (byte : UInt8) : Digest :=
  let pending := byte :: digest.pending
  if pending.length = 64 then
    ⟨mixBlock digest.words pending.reverse, [], digest.length + 1⟩
  else ⟨digest.words, pending, digest.length + 1⟩

def absorb (digest : Digest) (bytes : Bytes) : Digest := bytes.foldl feed digest

/-- The `count` lowest bytes of a number, the least significant first. -/
def littleEndian : Nat → Nat → Bytes
  | 0, _ => []
  | count + 1, n => UInt8.ofNat (n % 256) :: littleEndian count (n / 256)

/-- A one bit, zeros up to 56 bytes of the last block, and the length in bits. -/
def padding (length : Nat) : Bytes :=
  0x80 :: List.replicate ((119 - length % 64) % 64) 0 ++ littleEndian 8 (8 * length)

def close (digest : Digest) : Bytes :=
  let words := (absorb digest (padding digest.length)).words
  [words.a, words.b, words.c, words.d].flatMap fun word => littleEndian 4 word.toNat

def closeHex (digest : Digest) : String := Percent.hexText (close digest)

def hex (content : Bytes) : String := closeHex (absorb initial content)

/-! ## Laws -/

@[simp] theorem absorb_append (digest : Digest) (first second : Bytes) :
    absorb digest (first ++ second) = absorb (absorb digest first) second :=
  List.foldl_append

theorem absorb_flatten (digest : Digest) (chunks : List Bytes) :
    absorb digest chunks.flatten = chunks.foldl absorb digest := by
  induction chunks generalizing digest with
  | nil => rfl
  | cons chunk chunks ih => rw [List.flatten_cons, absorb_append, ih, List.foldl_cons]

end ObjectStorage.Md5
