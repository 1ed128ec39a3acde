import ImsClient.Text.Ascii

/-!
# MD5

The digest of 128 bits that HTTP Digest authentication is built on. The text is
filled up to whole blocks of 64 bytes, and each block stirs a state of four
words.
-/

namespace ImsClient.Digest.Md5

/-- The four words that are stirred. -/
structure State where
  a : UInt32
  b : UInt32
  c : UInt32
  d : UInt32
deriving DecidableEq, Repr, Inhabited

def State.start : State := ⟨0x67452301, 0xefcdab89, 0x98badcfe, 0x10325476⟩

/-- The constant added in each step. -/
def constants : Array UInt32 :=
  #[0xd76aa478, 0xe8c7b756, 0x242070db, 0xc1bdceee, 0xf57c0faf, 0x4787c62a, 0xa8304613,
    0xfd469501, 0x698098d8, 0x8b44f7af, 0xffff5bb1, 0x895cd7be, 0x6b901122, 0xfd987193,
    0xa679438e, 0x49b40821, 0xf61e2562, 0xc040b340, 0x265e5a51, 0xe9b6c7aa, 0xd62f105d,
    0x02441453, 0xd8a1e681, 0xe7d3fbc8, 0x21e1cde6, 0xc33707d6, 0xf4d50d87, 0x455a14ed,
    0xa9e3e905, 0xfcefa3f8, 0x676f02d9, 0x8d2a4c8a, 0xfffa3942, 0x8771f681, 0x6d9d6122,
    0xfde5380c, 0xa4beea44, 0x4bdecfa9, 0xf6bb4b60, 0xbebfbc70, 0x289b7ec6, 0xeaa127fa,
    0xd4ef3085, 0x04881d05, 0xd9d4d039, 0xe6db99e5, 0x1fa27cf8, 0xc4ac5665, 0xf4292244,
    0x432aff97, 0xab9423a7, 0xfc93a039, 0x655b59c3, 0x8f0ccc92, 0xffeff47d, 0x85845dd1,
    0x6fa87e4f, 0xfe2ce6e0, 0xa3014314, 0x4e0811a1, 0xf7537e82, 0xbd3af235, 0x2ad7d2bb,
    0xeb86d391]

/-- By how many bits each step of a round turns, four steps in turn. -/
def shifts (round step : Nat) : UInt32 :=
  let row : List UInt32 :=
    match round with
    | 0 => [7, 12, 17, 22]
    | 1 => [5, 9, 14, 20]
    | 2 => [4, 11, 16, 23]
    | _ => [6, 10, 15, 21]
  row.getD (step % 4) 0

def rotate (word amount : UInt32) : UInt32 := (word <<< amount) ||| (word >>> (32 - amount))

/-- The function of a round, and the word of the block that a step takes in. -/
def mix (s : State) (step : Nat) : UInt32 × Nat :=
  match step / 16 with
  | 0 => ((s.b &&& s.c) ||| (~~~s.b &&& s.d), step)
  | 1 => ((s.d &&& s.b) ||| (~~~s.d &&& s.c), (5 * step + 1) % 16)
  | 2 => (s.b ^^^ s.c ^^^ s.d, (3 * step + 5) % 16)
  | _ => (s.c ^^^ (s.b ||| ~~~s.d), (7 * step) % 16)

def stir (block : Array UInt32) (s : State) (step : Nat) : State :=
  let (mixed, word) := mix s step
  let sum := s.a + mixed + constants.getD step 0 + block.getD word 0
  ⟨s.d, s.b + rotate sum (shifts (step / 16) step), s.b, s.c⟩

/-- The state after a block of sixteen words. -/
def absorb (s : State) (block : Array UInt32) : State :=
  let t := (List.range 64).foldl (stir block) s
  ⟨s.a + t.a, s.b + t.b, s.c + t.c, s.d + t.d⟩

/-- The bytes of a number, the least first. -/
def littleEndian : Nat → Nat → List UInt8
  | 0, _ => []
  | count + 1, n => UInt8.ofNat (n % 256) :: littleEndian count (n / 256)

/-- The bytes filled up: a one bit, zeros, and the number of bits in eight bytes. -/
def padded (bytes : List UInt8) : List UInt8 :=
  bytes ++ 0x80 :: List.replicate ((119 - bytes.length % 64) % 64) 0 ++
    littleEndian 8 (8 * bytes.length)

/-- Four bytes as a word, the least first. -/
def words : List UInt8 → List UInt32
  | a :: b :: c :: d :: rest =>
    UInt32.ofNat (a.toNat + 256 * (b.toNat + 256 * (c.toNat + 256 * d.toNat))) :: words rest
  | _ => []

/-- Blocks of sixteen words, `count` of them. -/
def blocks : Nat → List UInt32 → List (Array UInt32)
  | 0, _ => []
  | count + 1, all => (all.take 16).toArray :: blocks count (all.drop 16)

def bytesOf (word : UInt32) : List UInt8 := littleEndian 4 word.toNat

def digest (bytes : List UInt8) : List UInt8 :=
  let all := words (padded bytes)
  let s := (blocks (all.length / 16) all).foldl absorb .start
  bytesOf s.a ++ bytesOf s.b ++ bytesOf s.c ++ bytesOf s.d

/-- The digest of a text in hexadecimal digits. -/
def hex (text : String) : String :=
  String.ofList <| (digest text.toUTF8.toList).flatMap fun byte => Text.hexPadded 2 byte.toNat

end ImsClient.Digest.Md5
