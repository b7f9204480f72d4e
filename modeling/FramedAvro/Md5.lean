import FramedAvro.Bytes

/-!
# MD5

The MD5 digest of bytes: sixteen bytes computed from blocks of 64 bytes by 64 rounds each.
-/

namespace FramedAvro.Md5

/-- The amounts by which the rounds rotate, four for each sixteen rounds. -/
def rotations : List (List UInt32) :=
  [[7, 12, 17, 22], [5, 9, 14, 20], [4, 11, 16, 23], [6, 10, 15, 21]]

/-- The constants of the rounds: the fractions of the sines of 1 to 64, in 32 bits. -/
def constants : List UInt32 :=
  [0xd76aa478, 0xe8c7b756, 0x242070db, 0xc1bdceee, 0xf57c0faf, 0x4787c62a, 0xa8304613, 0xfd469501,
    0x698098d8, 0x8b44f7af, 0xffff5bb1, 0x895cd7be, 0x6b901122, 0xfd987193, 0xa679438e, 0x49b40821,
    0xf61e2562, 0xc040b340, 0x265e5a51, 0xe9b6c7aa, 0xd62f105d, 0x02441453, 0xd8a1e681, 0xe7d3fbc8,
    0x21e1cde6, 0xc33707d6, 0xf4d50d87, 0x455a14ed, 0xa9e3e905, 0xfcefa3f8, 0x676f02d9, 0x8d2a4c8a,
    0xfffa3942, 0x8771f681, 0x6d9d6122, 0xfde5380c, 0xa4beea44, 0x4bdecfa9, 0xf6bb4b60, 0xbebfbc70,
    0x289b7ec6, 0xeaa127fa, 0xd4ef3085, 0x04881d05, 0xd9d4d039, 0xe6db99e5, 0x1fa27cf8, 0xc4ac5665,
    0xf4292244, 0x432aff97, 0xab9423a7, 0xfc93a039, 0x655b59c3, 0x8f0ccc92, 0xffeff47d, 0x85845dd1,
    0x6fa87e4f, 0xfe2ce6e0, 0xa3014314, 0x4e0811a1, 0xf7537e82, 0xbd3af235, 0x2ad7d2bb, 0xeb86d391]

/-- The four words that are carried from block to block. -/
structure Digest where
  a : UInt32
  b : UInt32
  c : UInt32
  d : UInt32
deriving DecidableEq, Repr

/-- The words before the first block. -/
def Digest.initial : Digest :=
  ⟨0x67452301, 0xefcdab89, 0x98badcfe, 0x10325476⟩

/-- The sixteen bytes of the words. -/
def Digest.toBytes (digest : Digest) : Bytes :=
  [digest.a, digest.b, digest.c, digest.d].flatMap fun w => Bytes.ofNatLittle 4 w.toNat

/-- The word with its bits moved to the left, those that fall out coming in on the right. -/
def rotateLeft (w amount : UInt32) : UInt32 :=
  (w <<< amount) ||| (w >>> (32 - amount))

/-- The mixing of three words in a round, and the place of the word of the block that it takes. -/
def mix (round : Nat) (digest : Digest) : UInt32 × Nat :=
  let ⟨_, b, c, d⟩ := digest
  if round < 16 then ((b &&& c) ||| (~~~b &&& d), round)
  else if round < 32 then ((d &&& b) ||| (~~~d &&& c), (5 * round + 1) % 16)
  else if round < 48 then (b ^^^ c ^^^ d, (3 * round + 5) % 16)
  else (c ^^^ (b ||| ~~~d), 7 * round % 16)

/-- One round over the words of a block. -/
def runRound (block : List UInt32) (digest : Digest) (round : Nat × UInt32) : Digest :=
  let (index, constant) := round
  let (mixed, place) := mix index digest
  let amount := ((rotations.getD (index / 16) []).getD (index % 4) 0)
  let sum := digest.a + mixed + constant + block.getD place 0
  ⟨digest.d, digest.b + rotateLeft sum amount, digest.b, digest.c⟩

/-- The digest after a block of sixteen words. -/
def runBlock (digest : Digest) (block : List UInt32) : Digest :=
  let last := (constants.mapIdx fun i c => (i, c)).foldl (runRound block) digest
  ⟨digest.a + last.a, digest.b + last.b, digest.c + last.c, digest.d + last.d⟩

/-- The bytes followed by a set bit, zeros, and their count in bits as eight bytes, which makes the
length a multiple of 64. -/
def pad (bytes : Bytes) : Bytes :=
  bytes ++ 0x80 :: List.replicate ((119 - bytes.length % 64) % 64) 0 ++
    Bytes.ofNatLittle 8 (8 * bytes.length)

/-- The first `count` words that the bytes spell, the least significant byte first. -/
def wordsOf : (count : Nat) → Bytes → List UInt32
  | 0, _ => []
  | count + 1, bytes =>
    UInt32.ofNat (Bytes.toNatLittle (bytes.take 4)) :: wordsOf count (bytes.drop 4)

/-- The digest after `count` blocks. -/
def runBlocks : (count : Nat) → Digest → Bytes → Digest
  | 0, digest, _ => digest
  | count + 1, digest, bytes =>
    runBlocks count (runBlock digest (wordsOf 16 (bytes.take 64))) (bytes.drop 64)

/-- The MD5 digest. -/
def digest (bytes : Bytes) : Bytes :=
  let padded := pad bytes
  (runBlocks (padded.length / 64) .initial padded).toBytes

end FramedAvro.Md5
