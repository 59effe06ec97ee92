import TokenGate.Bytes

/-! Decryption of blocks with RC2. A key is expanded to sixty-four words, of which the rounds use
four each; some rounds add words that the block itself points at. -/

set_option autoImplicit false

namespace TokenGate.Rc2

/-- A permutation of the octets, from the digits of a circle's ratio. -/
def permutation : Array UInt8 :=
  #[217, 120, 249, 196, 25, 221, 181, 237, 40, 233, 253, 121, 74, 160, 216, 157, 198, 126, 55, 131,
   43, 118, 83, 142, 98, 76, 100, 136, 68, 139, 251, 162, 23, 154, 89, 245, 135, 179, 79, 19, 97,
   69, 109, 141, 9, 129, 125, 50, 189, 143, 64, 235, 134, 183, 123, 11, 240, 149, 33, 34, 92, 107,
   78, 130, 84, 214, 101, 147, 206, 96, 178, 28, 115, 86, 192, 20, 167, 140, 241, 220, 18, 117,
   202, 31, 59, 190, 228, 209, 66, 61, 212, 48, 163, 60, 182, 38, 111, 191, 14, 218, 70, 105, 7,
   87, 39, 242, 29, 155, 188, 148, 67, 3, 248, 17, 199, 246, 144, 239, 62, 231, 6, 195, 213, 47,
   200, 102, 30, 215, 8, 232, 234, 222, 128, 82, 238, 247, 132, 170, 114, 172, 53, 77, 106, 42,
   150, 26, 210, 113, 90, 21, 73, 116, 75, 159, 208, 94, 4, 24, 164, 236, 194, 224, 65, 110, 15,
   81, 203, 204, 36, 145, 175, 80, 161, 244, 112, 57, 153, 124, 58, 133, 35, 184, 180, 122, 252,
   2, 54, 91, 37, 85, 151, 49, 45, 93, 250, 152, 227, 138, 146, 174, 5, 223, 41, 16, 103, 108,
   186, 201, 211, 0, 230, 207, 225, 158, 168, 44, 99, 22, 1, 63, 88, 226, 137, 169, 13, 56, 52,
   27, 171, 51, 255, 176, 187, 72, 12, 95, 185, 177, 205, 46, 197, 243, 219, 71, 229, 165, 156,
   119, 10, 166, 32, 104, 254, 127, 193, 173]

def look (b : UInt8) : UInt8 := permutation.getD b.toNat 0

/-- Octets of a key that goes on, newest first, each from the last one and one a key's length
before. -/
def extended (size : Nat) : Nat → Bytes → Bytes
  | 0, key => key
  | count + 1, key =>
    extended size count (look (key.headD 0 + key.getD (size - 1) 0) :: key)

/-- Octets in front of a cut, nearest first, each from the one behind it and one further on. -/
def reduced (gap : Nat) : Nat → Bytes → Bytes
  | 0, key => key
  | count + 1, key => reduced gap count (look (key.headD 0 ^^^ key.getD (gap - 1) 0) :: key)

def words : Bytes → List UInt16
  | a :: b :: rest => (a.toUInt16 ||| (b.toUInt16 <<< 8)) :: words rest
  | _ => []

/-- The words of a key of which only `bits` bits count. -/
def expand (bits : Nat) (key : Bytes) : Array UInt16 :=
  let long := (extended key.length (128 - key.length) key.reverse).reverse
  let gap := (bits + 7) / 8
  let mask := UInt8.ofNat (255 / Nat.pow 2 (8 * gap - bits))
  let last := look ((long.getD (128 - gap) 0) &&& mask)
  (words (reduced gap (128 - gap) (last :: long.drop (129 - gap)))).toArray

structure Four where
  a : UInt16
  b : UInt16
  c : UInt16
  d : UInt16

def turnRight (n w : UInt16) : UInt16 := (w >>> n) ||| (w <<< (16 - n))

def choose (x y z : UInt16) : UInt16 := (x &&& y) + (~~~x &&& z)

def unmix (key : Array UInt16) (place : Nat) (s : Four) : Four :=
  let at? (i : Nat) : UInt16 := key.getD (place + i) 0
  let d := turnRight 5 s.d - at? 3 - choose s.c s.b s.a
  let c := turnRight 3 s.c - at? 2 - choose s.b s.a d
  let b := turnRight 2 s.b - at? 1 - choose s.a d c
  let a := turnRight 1 s.a - at? 0 - choose d c b
  ⟨a, b, c, d⟩

def unmash (key : Array UInt16) (s : Four) : Four :=
  let at? (w : UInt16) : UInt16 := key.getD (w &&& 63).toNat 0
  let d := s.d - at? s.c
  let c := s.c - at? s.b
  let b := s.b - at? s.a
  ⟨s.a - at? d, b, c, d⟩

/-- Undo the rounds before and with the one of this number; there are sixteen. -/
def unround (key : Array UInt16) : Nat → Four → Four
  | 0, s => s
  | n + 1, s =>
    let s := unmix key (4 * n) s
    unround key n (if n = 5 ∨ n = 11 then unmash key s else s)

def ofWord (w : UInt16) : Bytes := [w.toUInt8, (w >>> 8).toUInt8]

def decryptBlock (key : Array UInt16) (block : Bytes) : Bytes :=
  match words block with
  | [a, b, c, d] =>
    let s := unround key 16 ⟨a, b, c, d⟩
    [s.a, s.b, s.c, s.d].flatMap ofWord
  | _ => block

end TokenGate.Rc2
