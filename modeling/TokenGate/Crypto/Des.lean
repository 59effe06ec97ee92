import TokenGate.Bytes

/-! Decryption of blocks with DES. A block goes through sixteen rounds on its
halves, each with a part of the key; the tables tell for each bit the place that it comes from,
counted from one at the most significant end. -/

set_option autoImplicit false

namespace TokenGate.Des

def initialPlaces : List UInt64 :=
  [58, 50, 42, 34, 26, 18, 10, 2, 60, 52, 44, 36, 28, 20, 12, 4, 62, 54, 46, 38, 30, 22, 14, 6,
   64, 56, 48, 40, 32, 24, 16, 8, 57, 49, 41, 33, 25, 17, 9, 1, 59, 51, 43, 35, 27, 19, 11, 3, 61,
   53, 45, 37, 29, 21, 13, 5, 63, 55, 47, 39, 31, 23, 15, 7]

def finalPlaces : List UInt64 :=
  [40, 8, 48, 16, 56, 24, 64, 32, 39, 7, 47, 15, 55, 23, 63, 31, 38, 6, 46, 14, 54, 22, 62, 30,
   37, 5, 45, 13, 53, 21, 61, 29, 36, 4, 44, 12, 52, 20, 60, 28, 35, 3, 43, 11, 51, 19, 59, 27,
   34, 2, 42, 10, 50, 18, 58, 26, 33, 1, 41, 9, 49, 17, 57, 25]

def expansionPlaces : List UInt64 :=
  [32, 1, 2, 3, 4, 5, 4, 5, 6, 7, 8, 9, 8, 9, 10, 11, 12, 13, 12, 13, 14, 15, 16, 17, 16, 17, 18,
   19, 20, 21, 20, 21, 22, 23, 24, 25, 24, 25, 26, 27, 28, 29, 28, 29, 30, 31, 32, 1]

def roundPlaces : List UInt64 :=
  [16, 7, 20, 21, 29, 12, 28, 17, 1, 15, 23, 26, 5, 18, 31, 10, 2, 8, 24, 14, 32, 27, 3, 9, 19,
   13, 30, 6, 22, 11, 4, 25]

def keyPlaces : List UInt64 :=
  [57, 49, 41, 33, 25, 17, 9, 1, 58, 50, 42, 34, 26, 18, 10, 2, 59, 51, 43, 35, 27, 19, 11, 3, 60,
   52, 44, 36, 63, 55, 47, 39, 31, 23, 15, 7, 62, 54, 46, 38, 30, 22, 14, 6, 61, 53, 45, 37, 29,
   21, 13, 5, 28, 20, 12, 4]

def roundKeyPlaces : List UInt64 :=
  [14, 17, 11, 24, 1, 5, 3, 28, 15, 6, 21, 10, 23, 19, 12, 4, 26, 8, 16, 7, 27, 20, 13, 2, 41, 52,
   31, 37, 47, 55, 30, 40, 51, 45, 33, 48, 44, 49, 39, 56, 34, 53, 46, 42, 50, 36, 29, 32]

/-- What six bits become, for each of the eight places where they stand. -/
def boxes : List (Array UInt64) :=
  [#[14, 4, 13, 1, 2, 15, 11, 8, 3, 10, 6, 12, 5, 9, 0, 7, 0, 15, 7, 4, 14, 2, 13, 1, 10, 6, 12,
    11, 9, 5, 3, 8, 4, 1, 14, 8, 13, 6, 2, 11, 15, 12, 9, 7, 3, 10, 5, 0, 15, 12, 8, 2, 4, 9, 1,
    7, 5, 11, 3, 14, 10, 0, 6, 13],
   #[15, 1, 8, 14, 6, 11, 3, 4, 9, 7, 2, 13, 12, 0, 5, 10, 3, 13, 4, 7, 15, 2, 8, 14, 12, 0, 1, 10,
    6, 9, 11, 5, 0, 14, 7, 11, 10, 4, 13, 1, 5, 8, 12, 6, 9, 3, 2, 15, 13, 8, 10, 1, 3, 15, 4, 2,
    11, 6, 7, 12, 0, 5, 14, 9],
   #[10, 0, 9, 14, 6, 3, 15, 5, 1, 13, 12, 7, 11, 4, 2, 8, 13, 7, 0, 9, 3, 4, 6, 10, 2, 8, 5, 14,
    12, 11, 15, 1, 13, 6, 4, 9, 8, 15, 3, 0, 11, 1, 2, 12, 5, 10, 14, 7, 1, 10, 13, 0, 6, 9, 8, 7,
    4, 15, 14, 3, 11, 5, 2, 12],
   #[7, 13, 14, 3, 0, 6, 9, 10, 1, 2, 8, 5, 11, 12, 4, 15, 13, 8, 11, 5, 6, 15, 0, 3, 4, 7, 2, 12,
    1, 10, 14, 9, 10, 6, 9, 0, 12, 11, 7, 13, 15, 1, 3, 14, 5, 2, 8, 4, 3, 15, 0, 6, 10, 1, 13, 8,
    9, 4, 5, 11, 12, 7, 2, 14],
   #[2, 12, 4, 1, 7, 10, 11, 6, 8, 5, 3, 15, 13, 0, 14, 9, 14, 11, 2, 12, 4, 7, 13, 1, 5, 0, 15,
    10, 3, 9, 8, 6, 4, 2, 1, 11, 10, 13, 7, 8, 15, 9, 12, 5, 6, 3, 0, 14, 11, 8, 12, 7, 1, 14, 2,
    13, 6, 15, 0, 9, 10, 4, 5, 3],
   #[12, 1, 10, 15, 9, 2, 6, 8, 0, 13, 3, 4, 14, 7, 5, 11, 10, 15, 4, 2, 7, 12, 9, 5, 6, 1, 13, 14,
    0, 11, 3, 8, 9, 14, 15, 5, 2, 8, 12, 3, 7, 0, 4, 10, 1, 13, 11, 6, 4, 3, 2, 12, 9, 5, 15, 10,
    11, 14, 1, 7, 6, 0, 8, 13],
   #[4, 11, 2, 14, 15, 0, 8, 13, 3, 12, 9, 7, 5, 10, 6, 1, 13, 0, 11, 7, 4, 9, 1, 10, 14, 3, 5, 12,
    2, 15, 8, 6, 1, 4, 11, 13, 12, 3, 7, 14, 10, 15, 6, 8, 0, 5, 9, 2, 6, 11, 13, 8, 1, 4, 10, 7,
    9, 5, 0, 15, 14, 2, 3, 12],
   #[13, 2, 8, 4, 6, 15, 11, 1, 10, 9, 3, 14, 5, 0, 12, 7, 1, 15, 13, 8, 10, 3, 7, 4, 12, 5, 6, 11,
    0, 14, 9, 2, 7, 11, 4, 1, 9, 12, 14, 2, 0, 6, 10, 13, 15, 3, 5, 8, 2, 1, 14, 7, 4, 10, 8, 13,
    15, 12, 9, 0, 3, 5, 6, 11]]

/-- The bits of a word of `width` bits at certain places, one after another. -/
def pick (width : UInt64) (places : List UInt64) (w : UInt64) : UInt64 :=
  places.foldl (fun acc p => (acc <<< 1) ||| ((w >>> (width - p)) &&& 1)) 0

/-- Six bits go by the row of the outer two and the column of the inner four. -/
def look (box : Array UInt64) (six : UInt64) : UInt64 :=
  let row := ((six >>> 4) &&& 2) ||| (six &&& 1)
  let column := (six >>> 1) &&& 15
  box.getD (16 * row.toNat + column.toNat) 0

def substitute (w : UInt64) : UInt64 :=
  let six (i : Nat) : UInt64 := (w >>> UInt64.ofNat (42 - 6 * i)) &&& 63
  boxes.zipIdx.foldl (fun acc b => (acc <<< 4) ||| look b.1 (six b.2)) 0

def halfMask : UInt64 := 0xffffffff

def mix (half key : UInt64) : UInt64 :=
  pick 32 roundPlaces (substitute (pick 32 expansionPlaces half ^^^ key))

/-- How far the halves of the key turn before each round. -/
def turns : List UInt64 := [1, 1, 2, 2, 2, 2, 2, 2, 1, 2, 2, 2, 2, 2, 2, 1]

def turn (n w : UInt64) : UInt64 := ((w <<< n) ||| (w >>> (28 - n))) &&& 0xfffffff

def roundKeysFrom : List UInt64 → UInt64 → UInt64 → List UInt64
  | [], _, _ => []
  | n :: rest, c, d =>
    let c := turn n c
    let d := turn n d
    pick 56 roundKeyPlaces ((c <<< 28) ||| d) :: roundKeysFrom rest c d

def word (bytes : Bytes) : UInt64 := bytes.foldl (fun w b => (w <<< 8) ||| b.toUInt64) 0

def roundKeys (key : Bytes) : List UInt64 :=
  let w := pick 64 keyPlaces (word key)
  roundKeysFrom turns (w >>> 28) (w &&& 0xfffffff)

def run (keys : List UInt64) (block : UInt64) : UInt64 :=
  let w := pick 64 initialPlaces block
  let (l, r) := keys.foldl (fun (h : UInt64 × UInt64) k => (h.2, h.1 ^^^ mix h.2 k))
    (w >>> 32, w &&& halfMask)
  pick 64 finalPlaces ((r <<< 32) ||| l)

/-- The keys of all rounds, in the order in which they open a block. -/
def openingKeys (key : Bytes) : List UInt64 := (roundKeys key).reverse

def decryptBlock (keys : List UInt64) (block : Bytes) : Bytes :=
  Bytes.ofWord64 (run keys (word block))

end TokenGate.Des
