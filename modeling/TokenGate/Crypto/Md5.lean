import TokenGate.Crypto.Padding

/-! The hash function MD5: four words of state, into which each block is worked in four rounds of
sixteen steps. All words are written lowest octet first. -/

set_option autoImplicit false

namespace TokenGate.Md5

structure Four where
  a : UInt32
  b : UInt32
  c : UInt32
  d : UInt32

def rotateLeft (n : UInt32) (w : UInt32) : UInt32 := (w <<< n) ||| (w >>> (32 - n))

def word (bytes : Bytes) : UInt32 := bytes.foldr (fun b w => (w <<< 8) ||| b.toUInt32) 0

/-- Multiples of sines, one for each step. -/
def constants : List UInt32 :=
  [0xd76aa478, 0xe8c7b756, 0x242070db, 0xc1bdceee, 0xf57c0faf, 0x4787c62a, 0xa8304613, 0xfd469501,
   0x698098d8, 0x8b44f7af, 0xffff5bb1, 0x895cd7be, 0x6b901122, 0xfd987193, 0xa679438e, 0x49b40821,
   0xf61e2562, 0xc040b340, 0x265e5a51, 0xe9b6c7aa, 0xd62f105d, 0x02441453, 0xd8a1e681, 0xe7d3fbc8,
   0x21e1cde6, 0xc33707d6, 0xf4d50d87, 0x455a14ed, 0xa9e3e905, 0xfcefa3f8, 0x676f02d9, 0x8d2a4c8a,
   0xfffa3942, 0x8771f681, 0x6d9d6122, 0xfde5380c, 0xa4beea44, 0x4bdecfa9, 0xf6bb4b60, 0xbebfbc70,
   0x289b7ec6, 0xeaa127fa, 0xd4ef3085, 0x04881d05, 0xd9d4d039, 0xe6db99e5, 0x1fa27cf8, 0xc4ac5665,
   0xf4292244, 0x432aff97, 0xab9423a7, 0xfc93a039, 0x655b59c3, 0x8f0ccc92, 0xffeff47d, 0x85845dd1,
   0x6fa87e4f, 0xfe2ce6e0, 0xa3014314, 0x4e0811a1, 0xf7537e82, 0xbd3af235, 0x2ad7d2bb, 0xeb86d391]

/-- Which word of the block a step takes. -/
def place (i : Nat) : Nat :=
  match i / 16 with
  | 0 => i
  | 1 => (5 * i + 1) % 16
  | 2 => (3 * i + 5) % 16
  | _ => 7 * i % 16

def turn (i : Nat) : UInt32 :=
  match i / 16, i % 4 with
  | 0, 0 => 7
  | 0, 1 => 12
  | 0, 2 => 17
  | 0, _ => 22
  | 1, 0 => 5
  | 1, 1 => 9
  | 1, 2 => 14
  | 1, _ => 20
  | 2, 0 => 4
  | 2, 1 => 11
  | 2, 2 => 16
  | 2, _ => 23
  | _, 0 => 6
  | _, 1 => 10
  | _, 2 => 15
  | _, _ => 21

def mix (i : Nat) (s : Four) : UInt32 :=
  match i / 16 with
  | 0 => (s.b &&& s.c) ||| (~~~s.b &&& s.d)
  | 1 => (s.d &&& s.b) ||| (~~~s.d &&& s.c)
  | 2 => s.b ^^^ s.c ^^^ s.d
  | _ => s.c ^^^ (s.b ||| ~~~s.d)

def step (words : Array UInt32) (s : Four) (k : UInt32 × Nat) : Four :=
  let w := s.a + mix k.2 s + k.1 + words.getD (place k.2) 0
  ⟨s.d, s.b + rotateLeft (turn k.2) w, s.b, s.c⟩

def compress (s : Four) (block : Bytes) : Four :=
  let words := ((block.blocks 4).map word).toArray
  let t := constants.zipIdx.foldl (step words) s
  ⟨s.a + t.a, s.b + t.b, s.c + t.c, s.d + t.d⟩

def start : Four := ⟨0x67452301, 0xefcdab89, 0x98badcfe, 0x10325476⟩

def hash (bytes : Bytes) : Bytes :=
  let padded := Padding.closed 8 (fun n => (Bytes.ofNat 8 n).reverse) bytes
  let s := (padded.blocks 64).foldl compress start
  [s.a, s.b, s.c, s.d].flatMap fun w => (Bytes.ofWord w).reverse

end TokenGate.Md5
