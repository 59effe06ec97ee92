import TokenGate.Crypto.Padding

/-! The hash functions of the second family: SHA-224 and SHA-256 on words of 32 bits, SHA-384 and
SHA-512 on words of 64 bits. A text is padded to whole blocks, and each block is worked into eight
words of state along with a schedule that grows by a recurrence on its last sixteen words. -/

set_option autoImplicit false

namespace TokenGate.Sha2

structure Eight (W : Type) where
  a : W
  b : W
  c : W
  d : W
  e : W
  f : W
  g : W
  h : W

structure Family (W : Type) where
  /-- Octets of a word. -/
  size : Nat
  ofBytes : Bytes → W
  toBytes : W → Bytes
  add : W → W → W
  choose : W → W → W → W
  majority : W → W → W → W
  bigA : W → W
  bigE : W → W
  smallFirst : W → W
  smallLast : W → W
  constants : List W

variable {W : Type}

def Eight.zip (op : W → W → W) (s t : Eight W) : Eight W :=
  ⟨op s.a t.a, op s.b t.b, op s.c t.c, op s.d t.d,
    op s.e t.e, op s.f t.f, op s.g t.g, op s.h t.h⟩

def Eight.toList (s : Eight W) : List W := [s.a, s.b, s.c, s.d, s.e, s.f, s.g, s.h]

def Family.round (F : Family W) (s : Eight W) (k w : W) : Eight W :=
  let t := F.add s.h (F.add (F.bigE s.e) (F.add (F.choose s.e s.f s.g) (F.add k w)))
  let u := F.add (F.bigA s.a) (F.majority s.a s.b s.c)
  ⟨F.add t u, s.a, s.b, s.c, F.add s.d t, s.e, s.f, s.g⟩

/-- Rounds over the constants. Of the schedule only the next sixteen words are kept. -/
def Family.rounds (F : Family W) : List W → List W → Eight W → Eight W
  | k :: ks, w0 :: w1 :: w2 :: w3 :: w4 :: w5 :: w6 :: w7 :: w8 :: w9 :: w10 :: w11 :: w12 :: w13 ::
      w14 :: w15 :: _, s =>
    let w16 := F.add (F.smallLast w14) (F.add w9 (F.add (F.smallFirst w1) w0))
    Family.rounds F ks [w1, w2, w3, w4, w5, w6, w7, w8, w9, w10, w11, w12, w13, w14, w15, w16]
      (F.round s k w0)
  | _, _, s => s

def Family.words (F : Family W) (block : Bytes) : List W := (block.blocks F.size).map F.ofBytes

def Family.compress (F : Family W) (s : Eight W) (block : Bytes) : Eight W :=
  s.zip F.add (F.rounds F.constants (F.words block) s)

def Family.blockSize (F : Family W) : Nat := 16 * F.size

def Family.padded (F : Family W) (bytes : Bytes) : Bytes :=
  Padding.closed (2 * F.size) (Bytes.ofNat (2 * F.size)) bytes

def Family.hash (F : Family W) (start : Eight W) (bytes : Bytes) : Bytes :=
  ((Bytes.blocks F.blockSize (F.padded bytes)).foldl F.compress start).toList.flatMap F.toBytes

def rotate32 (n : UInt32) (w : UInt32) : UInt32 := (w >>> n) ||| (w <<< (32 - n))

def rotate64 (n : UInt64) (w : UInt64) : UInt64 := (w >>> n) ||| (w <<< (64 - n))

def constants32 : List UInt32 :=
  [0x428a2f98, 0x71374491, 0xb5c0fbcf, 0xe9b5dba5, 0x3956c25b, 0x59f111f1, 0x923f82a4, 0xab1c5ed5,
   0xd807aa98, 0x12835b01, 0x243185be, 0x550c7dc3, 0x72be5d74, 0x80deb1fe, 0x9bdc06a7, 0xc19bf174,
   0xe49b69c1, 0xefbe4786, 0x0fc19dc6, 0x240ca1cc, 0x2de92c6f, 0x4a7484aa, 0x5cb0a9dc, 0x76f988da,
   0x983e5152, 0xa831c66d, 0xb00327c8, 0xbf597fc7, 0xc6e00bf3, 0xd5a79147, 0x06ca6351, 0x14292967,
   0x27b70a85, 0x2e1b2138, 0x4d2c6dfc, 0x53380d13, 0x650a7354, 0x766a0abb, 0x81c2c92e, 0x92722c85,
   0xa2bfe8a1, 0xa81a664b, 0xc24b8b70, 0xc76c51a3, 0xd192e819, 0xd6990624, 0xf40e3585, 0x106aa070,
   0x19a4c116, 0x1e376c08, 0x2748774c, 0x34b0bcb5, 0x391c0cb3, 0x4ed8aa4a, 0x5b9cca4f, 0x682e6ff3,
   0x748f82ee, 0x78a5636f, 0x84c87814, 0x8cc70208, 0x90befffa, 0xa4506ceb, 0xbef9a3f7, 0xc67178f2]

def constants64 : List UInt64 :=
  [0x428a2f98d728ae22, 0x7137449123ef65cd, 0xb5c0fbcfec4d3b2f, 0xe9b5dba58189dbbc,
   0x3956c25bf348b538, 0x59f111f1b605d019, 0x923f82a4af194f9b, 0xab1c5ed5da6d8118,
   0xd807aa98a3030242, 0x12835b0145706fbe, 0x243185be4ee4b28c, 0x550c7dc3d5ffb4e2,
   0x72be5d74f27b896f, 0x80deb1fe3b1696b1, 0x9bdc06a725c71235, 0xc19bf174cf692694,
   0xe49b69c19ef14ad2, 0xefbe4786384f25e3, 0x0fc19dc68b8cd5b5, 0x240ca1cc77ac9c65,
   0x2de92c6f592b0275, 0x4a7484aa6ea6e483, 0x5cb0a9dcbd41fbd4, 0x76f988da831153b5,
   0x983e5152ee66dfab, 0xa831c66d2db43210, 0xb00327c898fb213f, 0xbf597fc7beef0ee4,
   0xc6e00bf33da88fc2, 0xd5a79147930aa725, 0x06ca6351e003826f, 0x142929670a0e6e70,
   0x27b70a8546d22ffc, 0x2e1b21385c26c926, 0x4d2c6dfc5ac42aed, 0x53380d139d95b3df,
   0x650a73548baf63de, 0x766a0abb3c77b2a8, 0x81c2c92e47edaee6, 0x92722c851482353b,
   0xa2bfe8a14cf10364, 0xa81a664bbc423001, 0xc24b8b70d0f89791, 0xc76c51a30654be30,
   0xd192e819d6ef5218, 0xd69906245565a910, 0xf40e35855771202a, 0x106aa07032bbd1b8,
   0x19a4c116b8d2d0c8, 0x1e376c085141ab53, 0x2748774cdf8eeb99, 0x34b0bcb5e19b48a8,
   0x391c0cb3c5c95a63, 0x4ed8aa4ae3418acb, 0x5b9cca4f7763e373, 0x682e6ff3d6b2b8a3,
   0x748f82ee5defb2fc, 0x78a5636f43172f60, 0x84c87814a1f0ab72, 0x8cc702081a6439ec,
   0x90befffa23631e28, 0xa4506cebde82bde9, 0xbef9a3f7b2c67915, 0xc67178f2e372532b,
   0xca273eceea26619c, 0xd186b8c721c0c207, 0xeada7dd6cde0eb1e, 0xf57d4f7fee6ed178,
   0x06f067aa72176fba, 0x0a637dc5a2c898a6, 0x113f9804bef90dae, 0x1b710b35131c471b,
   0x28db77f523047d84, 0x32caab7b40c72493, 0x3c9ebe0a15c9bebc, 0x431d67c49c100d4c,
   0x4cc5d4becb3e42b6, 0x597f299cfc657e2a, 0x5fcb6fab3ad6faec, 0x6c44198c4a475817]

def family32 : Family UInt32 where
  size := 4
  ofBytes bytes := bytes.foldl (fun w b => (w <<< 8) ||| b.toUInt32) 0
  toBytes := Bytes.ofWord
  add := (· + ·)
  choose x y z := (x &&& y) ^^^ (~~~x &&& z)
  majority x y z := (x &&& y) ^^^ (x &&& z) ^^^ (y &&& z)
  bigA w := rotate32 2 w ^^^ rotate32 13 w ^^^ rotate32 22 w
  bigE w := rotate32 6 w ^^^ rotate32 11 w ^^^ rotate32 25 w
  smallFirst w := rotate32 7 w ^^^ rotate32 18 w ^^^ (w >>> 3)
  smallLast w := rotate32 17 w ^^^ rotate32 19 w ^^^ (w >>> 10)
  constants := constants32

def family64 : Family UInt64 where
  size := 8
  ofBytes bytes := bytes.foldl (fun w b => (w <<< 8) ||| b.toUInt64) 0
  toBytes := Bytes.ofWord64
  add := (· + ·)
  choose x y z := (x &&& y) ^^^ (~~~x &&& z)
  majority x y z := (x &&& y) ^^^ (x &&& z) ^^^ (y &&& z)
  bigA w := rotate64 28 w ^^^ rotate64 34 w ^^^ rotate64 39 w
  bigE w := rotate64 14 w ^^^ rotate64 18 w ^^^ rotate64 41 w
  smallFirst w := rotate64 1 w ^^^ rotate64 8 w ^^^ (w >>> 7)
  smallLast w := rotate64 19 w ^^^ rotate64 61 w ^^^ (w >>> 6)
  constants := constants64

def start224 : Eight UInt32 :=
  ⟨0xc1059ed8, 0x367cd507, 0x3070dd17, 0xf70e5939,
   0xffc00b31, 0x68581511, 0x64f98fa7, 0xbefa4fa4⟩

def start256 : Eight UInt32 :=
  ⟨0x6a09e667, 0xbb67ae85, 0x3c6ef372, 0xa54ff53a,
   0x510e527f, 0x9b05688c, 0x1f83d9ab, 0x5be0cd19⟩

def start384 : Eight UInt64 :=
  ⟨0xcbbb9d5dc1059ed8, 0x629a292a367cd507, 0x9159015a3070dd17, 0x152fecd8f70e5939,
   0x67332667ffc00b31, 0x8eb44a8768581511, 0xdb0c2e0d64f98fa7, 0x47b5481dbefa4fa4⟩

def start512 : Eight UInt64 :=
  ⟨0x6a09e667f3bcc908, 0xbb67ae8584caa73b, 0x3c6ef372fe94f82b, 0xa54ff53a5f1d36f1,
   0x510e527fade682d1, 0x9b05688c2b3e6c1f, 0x1f83d9abfb41bd6b, 0x5be0cd19137e2179⟩

end TokenGate.Sha2
