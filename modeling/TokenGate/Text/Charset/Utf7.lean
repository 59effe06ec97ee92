import TokenGate.Text.Charset.Basic
import TokenGate.Base64

/-! UTF-7: ASCII, with UTF-16 in base64 after a plus sign. A sequence ends at a character that is no
digit of base64; a minus there belongs to it. -/

set_option autoImplicit false

namespace TokenGate.Utf7

inductive State where
  | direct
  /-- Inside a sequence: how many bits are not used yet, which, and the first half of a pair. -/
  | inside (size bits : Nat) (high : Option Nat)
  deriving Repr, DecidableEq

def digit? (b : UInt8) : Option Nat := Base64.standard.value? (Char.ofNat b.toNat)

def isHigh (n : Nat) : Bool := 0xd800 ≤ n && n < 0xdc00

def isLow (n : Nat) : Bool := 0xdc00 ≤ n && n < 0xe000

/-- The characters that are known after one more unit, and the first half that waits. -/
def unit (high : Option Nat) (n : Nat) : List CodePoint × Option Nat :=
  match high with
  | some h =>
    if isLow n then ([.ofNat (0x10000 + (h - 0xd800) * 0x400 + (n - 0xdc00))], none)
    else if isHigh n then ([.ofNat h], some n)
    else ([.ofNat h, .ofNat n], none)
  | none => if isHigh n then ([], some n) else ([.ofNat n], none)

/-- Whether bits are left over that are more than padding. -/
def isUneven (size bits : Nat) : Bool := 6 ≤ size || (0 < size && bits != 0)

def nextDirect (b : UInt8) (rest : Bytes) : Charset.Step State CodePoint :=
  if b = 0x2b then
    match rest with
    | 0x2d :: behind => (.direct, [.char '+'], behind)
    | c :: behind =>
      if (digit? c).isSome then (.inside 0 0 none, [], rest)
      else (.direct, [.char Charset.missing], behind)
    | [] => (.inside 0 0 none, [], rest)
  else if b < 0x80 then (.direct, [.ofNat b.toNat], rest)
  else (.direct, [.char Charset.missing], rest)

/-- A half that still waits stands alone if a character follows. -/
def nextEnd (high : Option Nat) (b : UInt8) (rest : Bytes) : Charset.Step State CodePoint :=
  let half := if b < 0x80 && b != 0x2b then (high.map .ofNat).toList else []
  if b = 0x2d then (.direct, half, rest)
  else
    let (s, cs, rest) := nextDirect b rest
    (s, half ++ cs, rest)

def next (s : State) (b : UInt8) (rest : Bytes) : Charset.Step State CodePoint :=
  match s with
  | .direct => nextDirect b rest
  | .inside size bits high =>
    match digit? b with
    | some v =>
      let bits := 64 * bits + v
      let size := size + 6
      if size < 16 then (.inside size bits high, [], rest)
      else
        let (cs, high) := unit high (bits / Nat.pow 2 (size - 16))
        (.inside (size - 16) (bits % Nat.pow 2 (size - 16)) high, cs, rest)
    | none =>
      if isUneven size bits then (.direct, [.char Charset.missing], rest) else nextEnd high b rest

/-- A sequence may end with the text, if nothing is left over. -/
def finish : State → List CodePoint
  | .direct => []
  | .inside size bits high =>
    if high.isSome || isUneven size bits then [.char Charset.missing] else []

def read (bytes : Bytes) : List CodePoint := Charset.readWith next finish .direct bytes

end TokenGate.Utf7
