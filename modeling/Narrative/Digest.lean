/-!
# Digests

The MD5 digest of a sequence of bytes, written as 32 hexadecimal digits. The message is padded to
whole blocks of 64 bytes, its length in bits at the end; each block is mixed into four words in 64
rounds.
-/

namespace Narrative.Digest

/-- The constant of each round, `⌊2 ^ 32 * |sin (round + 1)|⌋`. -/
def constants : List UInt32 :=
  [0xd76aa478, 0xe8c7b756, 0x242070db, 0xc1bdceee, 0xf57c0faf, 0x4787c62a, 0xa8304613, 0xfd469501,
   0x698098d8, 0x8b44f7af, 0xffff5bb1, 0x895cd7be, 0x6b901122, 0xfd987193, 0xa679438e, 0x49b40821,
   0xf61e2562, 0xc040b340, 0x265e5a51, 0xe9b6c7aa, 0xd62f105d, 0x02441453, 0xd8a1e681, 0xe7d3fbc8,
   0x21e1cde6, 0xc33707d6, 0xf4d50d87, 0x455a14ed, 0xa9e3e905, 0xfcefa3f8, 0x676f02d9, 0x8d2a4c8a,
   0xfffa3942, 0x8771f681, 0x6d9d6122, 0xfde5380c, 0xa4beea44, 0x4bdecfa9, 0xf6bb4b60, 0xbebfbc70,
   0x289b7ec6, 0xeaa127fa, 0xd4ef3085, 0x04881d05, 0xd9d4d039, 0xe6db99e5, 0x1fa27cf8, 0xc4ac5665,
   0xf4292244, 0x432aff97, 0xab9423a7, 0xfc93a039, 0x655b59c3, 0x8f0ccc92, 0xffeff47d, 0x85845dd1,
   0x6fa87e4f, 0xfe2ce6e0, 0xa3014314, 0x4e0811a1, 0xf7537e82, 0xbd3af235, 0x2ad7d2bb, 0xeb86d391]

/-- By how much the sum of each round is rotated: four amounts in turn for each quarter. -/
def rotations : List UInt32 :=
  [[7, 12, 17, 22], [5, 9, 14, 20], [4, 11, 16, 23], [6, 10, 15, 21]].flatMap fun quarter =>
    (List.replicate 4 quarter).flatten

/-- The four words that are mixed. -/
structure Words where
  a : UInt32
  b : UInt32
  c : UInt32
  d : UInt32

/-- The words before the first block. -/
def start : Words := ⟨0x67452301, 0xefcdab89, 0x98badcfe, 0x10325476⟩

/-- Rotate to the left. -/
def rotate (x amount : UInt32) : UInt32 := (x <<< amount) ||| (x >>> (32 - amount))

/-- The mixing function of a round and the word of the block it takes. -/
def select (w : Words) (round : Nat) : UInt32 × Nat :=
  match round / 16 with
  | 0 => ((w.b &&& w.c) ||| (~~~w.b &&& w.d), round % 16)
  | 1 => ((w.d &&& w.b) ||| (~~~w.d &&& w.c), (5 * round + 1) % 16)
  | 2 => (w.b ^^^ w.c ^^^ w.d, (3 * round + 5) % 16)
  | _ => (w.c ^^^ (w.b ||| ~~~w.d), (7 * round) % 16)

/-- One round: its number, constant and rotation. -/
def mix (block : Array UInt32) (w : Words) (round : Nat × UInt32 × UInt32) : Words :=
  let (f, index) := select w round.1
  let sum := w.a + f + round.2.1 + block.getD index 0
  ⟨w.d, w.b + rotate sum round.2.2, w.b, w.c⟩

/-- All rounds, numbered from 0. -/
def rounds : List (Nat × UInt32 × UInt32) :=
  (List.range 64).zip (constants.zip rotations)

/-- Mix a block in. -/
def absorb (w : Words) (block : Array UInt32) : Words :=
  let mixed := rounds.foldl (mix block) w
  ⟨w.a + mixed.a, w.b + mixed.b, w.c + mixed.c, w.d + mixed.d⟩

/-- Bytes as words, the lowest byte first. -/
def words : List UInt8 → List UInt32
  | a :: b :: c :: d :: rest =>
    (a.toUInt32 ||| (b.toUInt32 <<< 8) ||| (c.toUInt32 <<< 16) ||| (d.toUInt32 <<< 24)) :: words rest
  | _ => []

/-- The lowest `count` bytes of a number, the lowest first. -/
def lowBytes (n : Nat) : Nat → List UInt8
  | 0 => []
  | count + 1 => UInt8.ofNat (n % 256) :: lowBytes (n / 256) count

/-- The message with a mark, zeros and its length in bits behind it, in whole blocks. -/
def padded (message : List UInt8) : List UInt8 :=
  let length := message.length
  message ++ 0x80 :: (List.replicate ((119 - length % 64) % 64) 0 ++ lowBytes (8 * length) 8)

/-- Mix `count` blocks in, one after another. -/
def absorbAll (w : Words) (all : List UInt32) : Nat → Words
  | 0 => w
  | count + 1 => absorbAll (absorb w (all.take 16).toArray) (all.drop 16) count

/-- Two hexadecimal digits for each byte. -/
def hex (all : List UInt8) : String :=
  String.ofList (all.flatMap fun byte =>
    [Nat.digitChar (byte.toNat / 16), Nat.digitChar (byte.toNat % 16)])

/-- The digest of a message. -/
def md5 (message : List UInt8) : String :=
  let all := words (padded message)
  let w := absorbAll start all (all.length / 16)
  hex ([w.a, w.b, w.c, w.d].flatMap fun word => lowBytes word.toNat 4)

end Narrative.Digest
