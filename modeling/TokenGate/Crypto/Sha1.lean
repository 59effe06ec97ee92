import TokenGate.Crypto.Padding

/-! The hash function SHA-1: five words of state, into which each block is worked along with a
schedule that grows by a recurrence on its last sixteen words. -/

set_option autoImplicit false

namespace TokenGate.Sha1

structure Five where
  a : UInt32
  b : UInt32
  c : UInt32
  d : UInt32
  e : UInt32

def rotateLeft (n : UInt32) (w : UInt32) : UInt32 := (w <<< n) ||| (w >>> (32 - n))

def word (bytes : Bytes) : UInt32 := bytes.foldl (fun w b => (w <<< 8) ||| b.toUInt32) 0

def mix (i : Nat) (s : Five) : UInt32 :=
  match i / 20 with
  | 0 => ((s.b &&& s.c) ||| (~~~s.b &&& s.d)) + 0x5a827999
  | 1 => (s.b ^^^ s.c ^^^ s.d) + 0x6ed9eba1
  | 2 => ((s.b &&& s.c) ||| (s.b &&& s.d) ||| (s.c &&& s.d)) + 0x8f1bbcdc
  | _ => (s.b ^^^ s.c ^^^ s.d) + 0xca62c1d6

def round (i : Nat) (w : UInt32) (s : Five) : Five :=
  ⟨rotateLeft 5 s.a + mix i s + s.e + w, s.a, rotateLeft 30 s.b, s.c, s.d⟩

/-- The rounds that are left. Of the schedule only the next sixteen words are kept. -/
def rounds : Nat → List UInt32 → Five → Five
  | left + 1, w0 :: w1 :: w2 :: w3 :: w4 :: w5 :: w6 :: w7 :: w8 :: w9 :: w10 :: w11 :: w12 ::
      w13 :: w14 :: w15 :: _, s =>
    let w16 := rotateLeft 1 (w13 ^^^ w8 ^^^ w2 ^^^ w0)
    rounds left [w1, w2, w3, w4, w5, w6, w7, w8, w9, w10, w11, w12, w13, w14, w15, w16]
      (round (79 - left) w0 s)
  | _, _, s => s

def compress (s : Five) (block : Bytes) : Five :=
  let t := rounds 80 ((block.blocks 4).map word) s
  ⟨s.a + t.a, s.b + t.b, s.c + t.c, s.d + t.d, s.e + t.e⟩

def start : Five := ⟨0x67452301, 0xefcdab89, 0x98badcfe, 0x10325476, 0xc3d2e1f0⟩

def hash (bytes : Bytes) : Bytes :=
  let s := ((Padding.closed 8 (Bytes.ofNat 8) bytes).blocks 64).foldl compress start
  [s.a, s.b, s.c, s.d, s.e].flatMap Bytes.ofWord

end TokenGate.Sha1
