import TokenGate.Text.Charset.Basic
import TokenGate.Text.Charset.Ksx1001

/-! Charsets of the characters of KS X 1001, which has part of the syllables only. Others are
spelled out of letters, numbered in order, or composed of the bits for their letters. -/

set_option autoImplicit false

namespace TokenGate.Charset

def syllable (initial medial final : Nat) : Char :=
  Char.ofNat (0xac00 + (initial * 21 + medial) * 28 + final)

def syllableStart : Nat := 0xac00
def syllableCount : Nat := 11172

def ksxPair? (a b : Nat) : Option (List Char) := (ksx1001.pair? 0xa1 a b).map fun c => [c]

/-! Syllables spelled out -/

/-- The octet in front of each letter, and the one of a filler. -/
def letterMark : UInt8 := 0xa4
def letterFiller : UInt8 := 0xd4

/-- Numbers of the consonants at the start of a syllable, and at its end; all of them in the order
of the letters. -/
def initials : List (Option Nat) :=
  [some 0, some 1, none, some 2, none, none, some 3, some 4, some 5, none, none, none, none, none,
   none, none, some 6, some 7, some 8, none, some 9, some 10, some 11, some 12, some 13, some 14,
   some 15, some 16, some 17, some 18]

def finals : List (Option Nat) :=
  [some 1, some 2, some 3, some 4, some 5, some 6, some 7, none, some 8, some 9, some 10, some 11,
   some 12, some 13, some 14, some 15, some 16, some 17, none, some 18, some 19, some 20, some 21,
   some 22, none, some 23, some 24, some 25, some 26, some 27]

def initial? (b : Nat) : Option Nat := if 0xa1 ≤ b then (initials[b - 0xa1]?).join else none

def medial? (b : Nat) : Option Nat := if 0xbf ≤ b ∧ b ≤ 0xd3 then some (b - 0xbf) else none

def final? (b : Nat) : Option Nat :=
  if b = letterFiller.toNat then some 0
  else if 0xa1 ≤ b then (finals[b - 0xa1]?).join
  else none

def spelled? (a b c : UInt8) : Option Char := do
  let i ← initial? a.toNat
  let m ← medial? b.toNat
  let f ← final? c.toNat
  some (syllable i m f)

def koreanNext (a : UInt8) (rest : Bytes) : List Char × Bytes :=
  match ascii? a.toNat, rest with
  | some c, _ => ([c], rest)
  | none, [] => cutShort
  | none, b :: behind =>
    if a = letterMark ∧ b = letterFiller then
      match behind with
      | p :: i :: q :: m :: r :: f :: behind =>
        let isMarked := p == letterMark && q == letterMark && r == letterMark
        pieceOr (if isMarked then (spelled? i m f).map fun c => [c] else none) behind rest
      | _ => cutShort
    else pieceOr (ksxPair? a.toNat b.toNat) behind rest

def korean (bytes : Bytes) : List Char := read koreanNext bytes

/-! Syllables in order -/

def furtherSyllables : Array Char := others syllableStart syllableCount ksx1001.characters

def unifiedColumn? (b : Nat) : Option Nat :=
  if 0x41 ≤ b ∧ b ≤ 0x5a then some (b - 0x41)
  else if 0x61 ≤ b ∧ b ≤ 0x7a then some (b - 0x47)
  else if 0x81 ≤ b ∧ b ≤ 0xfe then some (b - 0x4d)
  else none

/-- Rows above KS X 1001 have all columns, those beside it the ones to its left. -/
def unifiedPlace? (a b : Nat) : Option Nat := do
  let column ← unifiedColumn? b
  if 0x81 ≤ a ∧ a < 0xa1 then some (178 * (a - 0x81) + column)
  else if 0xa1 ≤ a ∧ column < 84 then some (178 * 32 + 84 * (a - 0xa1) + column)
  else none

def unifiedKorean : Paired where
  single? := ascii?
  pair? a b := (ksxPair? a b).or
    (((unifiedPlace? a b).bind (furtherSyllables[·]?)).map fun c => [c])

/-! Syllables composed of bits -/

/-- What five bits say: a letter of a syllable, with its place among the letters that stand alone,
or none. -/
inductive Jamo where
  | filler
  | letter (number alone : Nat)
  deriving Repr, DecidableEq

def initialLetters : List Nat :=
  [0x31, 0x32, 0x34, 0x37, 0x38, 0x39, 0x41, 0x42, 0x43, 0x45, 0x46, 0x47, 0x48, 0x49, 0x4a, 0x4b,
   0x4c, 0x4d, 0x4e]

def finalLetters : List Nat :=
  [0x31, 0x32, 0x33, 0x34, 0x35, 0x36, 0x37, 0x39, 0x3a, 0x3b, 0x3c, 0x3d, 0x3e, 0x3f, 0x40, 0x41,
   0x42, 0x44, 0x45, 0x46, 0x47, 0x48, 0x4a, 0x4b, 0x4c, 0x4d, 0x4e]

def initialJamo? (n : Nat) : Option Jamo :=
  if n = 1 then some .filler
  else if 2 ≤ n then (initialLetters[n - 2]?).map fun alone => .letter (n - 2) alone
  else none

def medialJamo? (n : Nat) : Option Jamo :=
  if n = 2 then some .filler
  else
    let number := if 3 ≤ n ∧ n ≤ 7 then some (n - 3)
      else if 10 ≤ n ∧ n ≤ 15 then some (n - 5)
      else if 18 ≤ n ∧ n ≤ 23 then some (n - 7)
      else if 26 ≤ n ∧ n ≤ 29 then some (n - 9)
      else none
    number.map fun m => .letter m (0x4f + m)

def finalJamo? (n : Nat) : Option Jamo :=
  if n = 1 then some .filler
  else
    let number := if 2 ≤ n ∧ n ≤ 17 then some (n - 1) else if 19 ≤ n then some (n - 2) else none
    number.bind fun f => (finalLetters[f - 1]?).map fun alone => .letter f alone

def alone (n : Nat) : Char := Char.ofNat (0x3100 + n)

def composed? (initial medial final : Jamo) : Option Char :=
  match initial, medial, final with
  | .filler, .filler, .filler => some '\u3000'
  | .letter _ c, .filler, .filler => some (alone c)
  | .filler, .letter _ c, .filler => some (alone c)
  | .filler, .filler, .letter _ c => some (alone c)
  | .letter i _, .letter m _, .filler => some (syllable i m 0)
  | .letter i _, .letter m _, .letter f _ => some (syllable i m f)
  | _, _, _ => none

/-- Characters of KS X 1001 that are no syllables, two rows to a first octet. -/
def combinedOther? (a b : Nat) : Option Char :=
  let column := if 0x31 ≤ b ∧ b ≤ 0x7e then some (b - 0x31)
    else if 0x91 ≤ b ∧ b ≤ 0xfe then some (b - 0x43)
    else none
  let top := if 0xd9 ≤ a ∧ a ≤ 0xde then some (2 * (a - 0xd9))
    else if 0xe0 ≤ a ∧ a ≤ 0xf9 then some (2 * a - 0x197)
    else none
  match top, column with
  | some top, some column =>
    if a = 0xda ∧ 0xa1 ≤ b ∧ b ≤ 0xd3 then none
    else ksx1001.at? (top + column / 94) (column % 94)
  | _, _ => none

def combinedPair? (a b : Nat) : Option Char :=
  if a < 0xd8 then do
    let i ← initialJamo? (a / 4 % 32)
    let m ← medialJamo? ((a % 4) * 8 + b / 32)
    let f ← finalJamo? (b % 32)
    composed? i m f
  else combinedOther? a b

def combinedKorean : Paired where
  single? := ascii?
  pair? a b := (combinedPair? a b).map fun c => [c]

end TokenGate.Charset
