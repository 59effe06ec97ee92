import TokenGate.Bytes

/-! The hash function SHAKE256, whose digests have any length. A sponge of twenty-five words, in
rows of five, takes a text in block by block and gives its digest block by block; in between the
words are permuted. -/

set_option autoImplicit false

namespace TokenGate.Shake

abbrev Sponge := Array UInt64

def constants : List UInt64 :=
  [0x0000000000000001, 0x0000000000008082, 0x800000000000808a, 0x8000000080008000,
   0x000000000000808b, 0x0000000080000001, 0x8000000080008081, 0x8000000000008009,
   0x000000000000008a, 0x0000000000000088, 0x0000000080008009, 0x000000008000000a,
   0x000000008000808b, 0x800000000000008b, 0x8000000000008089, 0x8000000000008003,
   0x8000000000008002, 0x8000000000000080, 0x000000000000800a, 0x800000008000000a,
   0x8000000080008081, 0x8000000000008080, 0x0000000080000001, 0x8000000080008008]

def turns : List UInt64 :=
  [0, 1, 62, 28, 27, 36, 44, 6, 55, 20, 3, 10, 43, 25, 39, 41, 45, 15, 21, 8, 18, 2, 61, 56, 14]

def turn (n w : UInt64) : UInt64 := if n = 0 then w else (w <<< n) ||| (w >>> (64 - n))

def at? (s : Sponge) (i : Nat) : UInt64 := s.getD i 0

def tabulate (f : Nat → UInt64) : Sponge := ((List.range 25).map f).toArray

/-- Add the parities of two columns to each word. -/
def spread (s : Sponge) : Sponge :=
  let column (x : Nat) : UInt64 :=
    at? s x ^^^ at? s (x + 5) ^^^ at? s (x + 10) ^^^ at? s (x + 15) ^^^ at? s (x + 20)
  let sums : Sponge := ((List.range 5).map column).toArray
  tabulate fun i => at? s i ^^^ at? sums ((i + 4) % 5) ^^^ turn 1 (at? sums ((i + 1) % 5))

def move (s : Sponge) : Sponge :=
  let turned : Sponge := (List.zipWith turn turns s.toList).toArray
  tabulate fun i =>
    let x := i % 5
    let y := i / 5
    at? turned ((x + 3 * y) % 5 + 5 * x)

/-- Combine each word with the next two of its row. -/
def combine (s : Sponge) : Sponge :=
  tabulate fun i =>
    let row := 5 * (i / 5)
    at? s i ^^^ (~~~(at? s (row + (i + 1) % 5)) &&& at? s (row + (i + 2) % 5))

def round (s : Sponge) (constant : UInt64) : Sponge :=
  let t := combine (move (spread s))
  t.setIfInBounds 0 (at? t 0 ^^^ constant)

def permute (s : Sponge) : Sponge := constants.foldl round s

def rate : Nat := 136

def word (bytes : Bytes) : UInt64 := bytes.foldr (fun b w => (w <<< 8) ||| b.toUInt64) 0

def absorb (s : Sponge) (block : Bytes) : Sponge :=
  let words := ((block.blocks 8).map word).toArray
  permute (tabulate fun i => at? s i ^^^ words.getD i 0)

def padded (bytes : Bytes) : Bytes :=
  match rate - bytes.length % rate with
  | 1 => bytes ++ [0x9f]
  | gap => bytes ++ [0x1f] ++ List.replicate (gap - 2) 0 ++ [0x80]

def squeeze : Nat → Sponge → Bytes
  | 0, _ => []
  | count + 1, s =>
    (s.toList.flatMap fun w => (Bytes.ofWord64 w).reverse).take rate ++ squeeze count (permute s)

def hash (size : Nat) (bytes : Bytes) : Bytes :=
  let s := ((padded bytes).blocks rate).foldl absorb (tabulate fun _ => 0)
  (squeeze ((size + rate - 1) / rate) s).take size

end TokenGate.Shake
