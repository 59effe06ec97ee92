import TokenGate.Text.Charset.Basic
import TokenGate.Text.Charset.Jis0208
import TokenGate.Text.Charset.Jis0212
import TokenGate.Text.Charset.Jis0213
import TokenGate.Text.Charset.JisVendor

/-! Charsets of the characters of the JIS standards. Extended ones set the high bit of both octets
of a character; shifted ones leave room for half-width letters among the first octets. -/

set_option autoImplicit false

namespace TokenGate.Charset

def highFirst : Nat := 0xa1
def lowFirst : Nat := 0x21

def kana? (b : Nat) : Option Char :=
  if 0xa1 ≤ b ∧ b ≤ 0xdf then some (Char.ofNat (0xfec0 + b)) else none

/-- Latin letters with the signs of the yen and of the overline. -/
def roman? (b : Nat) : Option Char :=
  if b = 0x5c then some '¥' else if b = 0x7e then some '‾' else ascii? b

/-! Sets of two octets, by row and column -/

inductive Edition where
  | first
  | second
  deriving Repr, DecidableEq

/-- The first plane of JIS X 0213. Places that were filled later are faults in the first edition,
but whole ones. -/
def firstPlane? (e : Edition) (row column : Nat) : Option (List Char) :=
  if e = .first ∧ jis0213Later.contains (row, column) then some [missing]
  else
    let one := (jis0208.at? row column).or (jis0213First.at? row column)
    (one.map fun c => [c]).or (jis0213Marked.lookup (row, column))

/-- The second plane of JIS X 0213. The editions disagree about one character. -/
def secondPlane? (e : Edition) (row column : Nat) : Option (List Char) :=
  if e = .first ∧ (row, column) = (92, 26) then some ['鬝']
  else (jis0213Second.at? row column).map fun c => [c]

def byOctets (first : Nat) (read : Nat → Nat → Option (List Char)) (a b : Nat) :
    Option (List Char) :=
  if first ≤ a ∧ first ≤ b then read (a - first) (b - first) else none

def single (g : Grid) (row column : Nat) : Option (List Char) :=
  (g.at? row column).map fun c => [c]

/-! Extended charsets -/

/-- A second set behind a mark; half-width letters are behind another one. -/
structure Extended where
  first? : Nat → Nat → Option (List Char)
  second? : Nat → Nat → Option (List Char)

namespace Extended

def next (x : Extended) (a : UInt8) (rest : Bytes) : List Char × Bytes :=
  if a < 0x80 then ([Char.ofNat a.toNat], rest)
  else if a = 0x8e then
    match rest with
    | [] => cutShort
    | b :: behind => pieceOr ((kana? b.toNat).map fun c => [c]) behind rest
  else if a = 0x8f then
    match rest with
    | b :: c :: behind => pieceOr (byOctets highFirst x.second? b.toNat c.toNat) behind rest
    | _ => cutShort
  else
    match rest with
    | [] => cutShort
    | b :: behind => pieceOr (byOctets highFirst x.first? a.toNat b.toNat) behind rest

def read (x : Extended) (bytes : Bytes) : List Char := Charset.read x.next bytes

end Extended

def extendedJis : Extended := ⟨single jis0208, single jis0212⟩

def extendedJis0213 (e : Edition) : Extended :=
  ⟨firstPlane? e, fun row column => (secondPlane? e row column).or (single jis0212 row column)⟩

/-! Shifted charsets -/

def shiftedLead? (a : Nat) : Option Nat :=
  if 0x81 ≤ a ∧ a ≤ 0x9f then some (a - 0x81)
  else if 0xe0 ≤ a ∧ a ≤ 0xfc then some (a - 0xc1)
  else none

def shiftedTrail? (b : Nat) : Option Nat :=
  if 0x40 ≤ b ∧ b ≤ 0x7e then some (b - 0x40)
  else if 0x80 ≤ b ∧ b ≤ 0xfc then some (b - 0x41)
  else none

/-- Row and column under two octets; two rows share a first octet. -/
def shiftedPlace? (a b : Nat) : Option (Nat × Nat) := do
  let lead ← shiftedLead? a
  let trail ← shiftedTrail? b
  some (2 * lead + trail / 94, trail % 94)

def shiftedJis : Paired where
  single? b := (ascii? b).or (kana? b)
  pair? a b := (shiftedPlace? a b).bind fun (row, column) => single jis0208 row column

def userFirst : Nat := 0xf0
def userLast : Nat := 0xf9
def userStart : Nat := 0xe000

def userDefined? (a b : Nat) : Option Char :=
  if userFirst ≤ a ∧ a ≤ userLast then
    (shiftedTrail? b).map fun trail => Char.ofNat (userStart + 188 * (a - userFirst) + trail)
  else none

def vendorSingle? (b : Nat) : Option Char :=
  if b ≤ 0x80 then some (Char.ofNat b)
  else if b = 0xa0 then some '\uf8f0'
  else if 0xfd ≤ b then some (Char.ofNat (0xf8f1 + (b - 0xfd)))
  else kana? b

def vendorJis : Paired where
  single? := vendorSingle?
  pair? a b := do
    let (row, column) ← shiftedPlace? a b
    let c ← ((jisVendor.at? row column).or (jis0208.at? row column)).or (userDefined? a b)
    some [c]

/-- Rows of the second plane that stand behind the first one, in their order there. -/
def foldedRows : List Nat := [0, 7, 2, 3, 4, 11, 12, 13, 14] ++ List.range' 77 17

def shiftedJis0213 (e : Edition) : Paired where
  single? b := (roman? b).or (kana? b)
  pair? a b := do
    let (row, column) ← shiftedPlace? a b
    if row < 94 then
      match row, column with
      | 0, 31 => some ['\\']
      | 1, 17 => some ['~']
      | row, column => firstPlane? e row column
    else secondPlane? e (← foldedRows[row - 94]?) column

end TokenGate.Charset
