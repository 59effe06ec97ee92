import TokenGate.Text.Charset.Basic
import TokenGate.Text.Charset.Big5
import TokenGate.Text.Charset.Big5Supplement
import TokenGate.Text.Charset.Gb2312
import TokenGate.Text.Charset.Gbk

/-! Charsets of the characters of GB 2312, with more and more others around them, and of those of
Big5. -/

set_option autoImplicit false

namespace TokenGate.Charset

/-! GB 2312 -/

def simplified : Paired where
  single? := ascii?
  pair? a b := (gb2312.pair? 0xa1 a b).map fun c => [c]

/-- Characters in seven bits, between marks that begin with a tilde. -/
def tildeNext (inside : Bool) (a : UInt8) (rest : Bytes) : Step Bool :=
  if a = 0x7e then
    match rest, inside with
    | [], _ => (inside, cutShort)
    | 0x7e :: behind, false => (false, ['~'], behind)
    | 0x7b :: behind, false => (true, [], behind)
    | 0x0a :: behind, false => (false, [], behind)
    | 0x7d :: behind, true => (false, [], behind)
    | _, _ => (inside, [missing], rest)
  else if 0x80 ≤ a then (inside, [missing], rest)
  else if !inside then (inside, [Char.ofNat a.toNat], rest)
  else
    match rest with
    | [] => (inside, cutShort)
    | b :: behind =>
      (inside, pieceOr ((gb2312.pair? 0x21 a.toNat b.toNat).map fun c => [c]) behind rest)

def simplifiedTilde (bytes : Bytes) : List Char :=
  readWith tildeNext (fun _ => []) false bytes

/-! GBK -/

/-- Column of a second octet, of 190. -/
def wideColumn? (b : Nat) : Option Nat :=
  if 0x40 ≤ b ∧ b ≤ 0x7e then some (b - 0x40)
  else if 0x80 ≤ b ∧ b ≤ 0xfe then some (b - 0x41)
  else none

def topRows : Nat := 32
def leftColumns : Nat := 96

/-- Place among the ideographs in order: they fill the rows above GB 2312, and the columns to the
left of it from the tenth row on. -/
def orderedPlace? (row column : Nat) : Option Nat :=
  if row < topRows then some (190 * row + column)
  else if 41 ≤ row ∧ column < leftColumns then
    some (190 * topRows + leftColumns * (row - 41) + column)
  else none

def ideographs : Array Char := others 0x4e00 20902 gb2312.characters

def gbkAt? (row column : Nat) : Option Char :=
  let quarter :=
    if topRows ≤ row ∧ leftColumns ≤ column then
      gb2312.at? (row - topRows) (column - leftColumns)
    else none
  ((gbkSigns.at? row column).or quarter).or ((orderedPlace? row column).bind (ideographs[·]?))

def byWideOctets (read : Nat → Nat → Option Char) (a b : Nat) : Option (List Char) :=
  if 0x81 ≤ a ∧ a ≤ 0xfe then
    ((wideColumn? b).bind fun column => read (a - 0x81) column).map fun c => [c]
  else none

def extendedSimplified : Paired := ⟨ascii?, byWideOctets gbkAt?⟩

/-! GB 18030 -/

/-- Rows for users, beside and below GB 2312 and to the left of it; the character that each
region begins with, and its first row and column and its width. -/
def userRegions : List (Nat × Nat × Nat × Nat × Nat) :=
  [(0xe000, 41, 6, 96, 94), (0xe234, 119, 7, 96, 94), (0xe4c6, 32, 7, 0, 96)]

def userRegion? (row column : Nat) : Option Char :=
  userRegions.findSome? fun (start, top, height, left, width) =>
    if top ≤ row ∧ row < top + height ∧ left ≤ column ∧ column < left + width then
      some (Char.ofNat (start + width * (row - top) + (column - left)))
    else none

def sparePlaces : List (Nat × Nat) :=
  ((List.range 126).flatMap fun row => (List.range 190).map fun column => (row, column)).filter
    fun (row, column) => (gbkAt? row column).isNone && (userRegion? row column).isNone

/-- Private characters that stand for spare places. -/
def spareStart : Nat := 0xe766

def spare? (row column : Nat) : Option Char :=
  (sparePlaces.idxOf? (row, column)).map fun i => Char.ofNat (spareStart + i)

def nationalAt? (row column : Nat) : Option Char :=
  (((gbkAt? row column).or (gb18030Signs.at? row column)).or (userRegion? row column)).or
    (spare? row column)

def fourOctet : Array Char :=
  let places := (List.range 126).flatMap fun row => (List.range 190).map fun column => (row, column)
  let pairs := places.filterMap fun (row, column) => nationalAt? row column
  let low := others 0x80 (0xd800 - 0x80) pairs
  low ++ others 0xe000 0x2000 pairs

/-- The number of four octets, the second and fourth of which are digits. -/
def fourNumber? (a b c d : Nat) : Option Nat :=
  if 0x81 ≤ a ∧ a ≤ 0xfe ∧ 0x81 ≤ c ∧ c ≤ 0xfe ∧ 0x30 ≤ d ∧ d ≤ 0x39 then
    some ((((a - 0x81) * 10 + (b - 0x30)) * 126 + (c - 0x81)) * 10 + (d - 0x30))
  else none

def beyondFirst : Nat := 189000

def four? (a b c d : Nat) : Option Char := do
  let n ← fourNumber? a b c d
  if n < beyondFirst then fourOctet[n]?
  else if n - beyondFirst < 0x100000 then some (Char.ofNat (0x10000 + (n - beyondFirst)))
  else none

def nationalNext (a : UInt8) (rest : Bytes) : List Char × Bytes :=
  if a < 0x80 then ([Char.ofNat a.toNat], rest)
  else
    match rest with
    | [] => cutShort
    | b :: behind =>
      if 0x30 ≤ b ∧ b ≤ 0x39 then
        match behind with
        | c :: d :: behind =>
          pieceOr ((four? a.toNat b.toNat c.toNat d.toNat).map fun c => [c]) behind rest
        | _ => cutShort
      else pieceOr (byWideOctets nationalAt? a.toNat b.toNat) behind rest

def national (bytes : Bytes) : List Char := read nationalNext bytes

/-! Big5 -/

def traditionalColumn? (b : Nat) : Option Nat :=
  if 0x40 ≤ b ∧ b ≤ 0x7e then some (b - 0x40)
  else if 0xa1 ≤ b ∧ b ≤ 0xfe then some (b - 0x62)
  else none

def traditionalAt? (g : Grid) (first a b : Nat) : Option (List Char) :=
  if first ≤ a then
    ((traditionalColumn? b).bind fun column => g.at? (a - first) column).map fun c => [c]
  else none

def traditional : Paired := ⟨ascii?, traditionalAt? big5 0xa1⟩

def vendorTraditional : Paired where
  single? := ascii?
  pair? a b := (traditionalAt? big5Vendor 0xa1 a b).or (traditionalAt? big5 0xa1 a b)

def hongKongMarked : List ((Nat × Nat) × List Char) :=
  [((0x88, 0x62), "Ê\u0304".toList), ((0x88, 0x64), "Ê\u030c".toList),
   ((0x88, 0xa3), "ê\u0304".toList), ((0x88, 0xa5), "ê\u030c".toList)]

/-- Whether two octets mean the supplement only. -/
def isReplaced (a b : Nat) : Bool := (a == 0xc6 && 0xa1 ≤ b) || a == 0xc7 || a == 0xc8

def hongKongTraditional : Paired where
  single? := ascii?
  pair? a b :=
    let base := if isReplaced a b then none else traditionalAt? big5 0xa1 a b
    (base.or (traditionalAt? hongKong 0x87 a b)).or (hongKongMarked.lookup (a, b))

end TokenGate.Charset
