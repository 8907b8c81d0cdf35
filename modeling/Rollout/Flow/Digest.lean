/-!
# The MD5 digest

The digest of a message of bytes is computed block by block: the message is padded to a
multiple of 64 bytes with its length in bits at the end, and each block of sixteen words is
mixed into a state of four words in 64 steps.
-/

namespace Rollout.Digest

/-- The four words of the running digest. -/
structure MixState where
  a : UInt32
  b : UInt32
  c : UInt32
  d : UInt32
  deriving DecidableEq, Repr

/-- The state that digests start from. -/
def MixState.start : MixState where
  a := 0x67452301
  b := 0xefcdab89
  c := 0x98badcfe
  d := 0x10325476

/-- The left rotations of the steps, four in turn for each round of sixteen. -/
def rotations : List (List UInt32) :=
  [[7, 12, 17, 22], [5, 9, 14, 20], [4, 11, 16, 23], [6, 10, 15, 21]]

/-- The constants of the steps, the leading bits of the sines of 1 to 64. -/
def sines : Array UInt32 :=
  #[0xd76aa478, 0xe8c7b756, 0x242070db, 0xc1bdceee, 0xf57c0faf, 0x4787c62a, 0xa8304613,
    0xfd469501, 0x698098d8, 0x8b44f7af, 0xffff5bb1, 0x895cd7be, 0x6b901122, 0xfd987193,
    0xa679438e, 0x49b40821, 0xf61e2562, 0xc040b340, 0x265e5a51, 0xe9b6c7aa, 0xd62f105d,
    0x02441453, 0xd8a1e681, 0xe7d3fbc8, 0x21e1cde6, 0xc33707d6, 0xf4d50d87, 0x455a14ed,
    0xa9e3e905, 0xfcefa3f8, 0x676f02d9, 0x8d2a4c8a, 0xfffa3942, 0x8771f681, 0x6d9d6122,
    0xfde5380c, 0xa4beea44, 0x4bdecfa9, 0xf6bb4b60, 0xbebfbc70, 0x289b7ec6, 0xeaa127fa,
    0xd4ef3085, 0x04881d05, 0xd9d4d039, 0xe6db99e5, 0x1fa27cf8, 0xc4ac5665, 0xf4292244,
    0x432aff97, 0xab9423a7, 0xfc93a039, 0x655b59c3, 0x8f0ccc92, 0xffeff47d, 0x85845dd1,
    0x6fa87e4f, 0xfe2ce6e0, 0xa3014314, 0x4e0811a1, 0xf7537e82, 0xbd3af235, 0x2ad7d2bb,
    0xeb86d391]

/-- The bits of a word moved around to the left. -/
def rotateLeft (w n : UInt32) : UInt32 :=
  (w <<< n) ||| (w >>> (32 - n))

/-- The word that the state contributes in a step, and the place of the block's word. -/
def stepInput (s : MixState) (i : Nat) : UInt32 × Nat :=
  match i / 16 with
  | 0 => ((s.b &&& s.c) ||| (~~~s.b &&& s.d), i)
  | 1 => ((s.d &&& s.b) ||| (~~~s.d &&& s.c), (5 * i + 1) % 16)
  | 2 => (s.b ^^^ s.c ^^^ s.d, (3 * i + 5) % 16)
  | _ => (s.c ^^^ (s.b ||| ~~~s.d), (7 * i) % 16)

/-- One of the 64 steps. -/
def step (block : Array UInt32) (s : MixState) (i : Nat) : MixState :=
  let (mixed, place) := stepInput s i
  let sum := mixed + s.a + sines.getD i 0 + block.getD place 0
  let turn := ((rotations.getD (i / 16) []).getD (i % 4) 0)
  { a := s.d, b := s.b + rotateLeft sum turn, c := s.b, d := s.c }

/-- Mixes a block into the state. -/
def mixBlock (s : MixState) (block : Array UInt32) : MixState :=
  let t := (List.range 64).foldl (step block) s
  { a := s.a + t.a, b := s.b + t.b, c := s.c + t.c, d := s.d + t.d }

/-- The word of four bytes, the lowest first. -/
def wordOfBytes : List UInt8 → UInt32
  | [] => 0
  | b :: rest => b.toUInt32 ||| (wordOfBytes rest <<< 8)

/-- The lowest bytes of a number, the lowest first. -/
def bytesOf (n : Nat) : Nat → List UInt8
  | 0 => []
  | count + 1 => UInt8.ofNat (n % 256) :: bytesOf (n / 256) count

/-- The message with the bit, the zeros and the length that fill it up to whole blocks. -/
def padded (message : List UInt8) : List UInt8 :=
  let zeros := (119 - message.length % 64) % 64
  message ++ 0x80 :: List.replicate zeros 0 ++ bytesOf (8 * message.length) 8

/-- The given number of blocks at the head of the bytes. -/
def blocks : Nat → List UInt8 → List (Array UInt32)
  | 0, _ => []
  | count + 1, bytes =>
    ((List.range 16).map fun i => wordOfBytes ((bytes.drop (4 * i)).take 4)).toArray ::
      blocks count (bytes.drop 64)

/-- The sixteen bytes of a message's digest. -/
def digest (message : List UInt8) : List UInt8 :=
  let bytes := padded message
  let s := (blocks (bytes.length / 64) bytes).foldl mixBlock .start
  [s.a, s.b, s.c, s.d].flatMap fun w => bytesOf w.toNat 4

end Rollout.Digest
