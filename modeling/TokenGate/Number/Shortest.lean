import TokenGate.Number.Binary64

/-! The shortest decimal digits that read back as a binary64 number, and their
layout. `digits` tries the grids of 1, 2, … 17 digits; on each it asks whether
one of the two neighbours of the value lies in the interval of reals that round
to it. The interval keeps its ends when the significand is even. -/

set_option autoImplicit false

namespace TokenGate.Binary64

def ratioLt (a b c d : Nat) : Bool := a * d < c * b

def ratioLe (a b c d : Nat) : Bool := a * d ≤ c * b

/-- Ends of the interval of reals that round to `m · 2 ^ e`, over one denominator:
low, the value, high, denominator. -/
def interval (m : Nat) (e : Int) : Nat × Nat × Nat × Nat :=
  let low := if m = Nat.pow 2 (precision - 1) ∧ e ≠ leastExponent then 4 * m - 1 else 4 * m - 2
  let high := 4 * m + 2
  match e with
  | .ofNat n => (low * Nat.pow 2 n, 4 * m * Nat.pow 2 n, high * Nat.pow 2 n, 4)
  | .negSucc n => (low, 4 * m, high, 4 * Nat.pow 2 (n + 1))

def scaleTen (num den : Nat) (p : Int) : Nat × Nat :=
  match p with
  | .ofNat n => (num, den * Nat.pow 10 n)
  | .negSucc n => (num * Nat.pow 10 (n + 1), den)

/-- The neighbour of the value on the grid of step `10 ^ p` that lies in the interval,
the nearer one when both do. -/
def onGrid (m : Nat) (e p : Int) : Option Nat :=
  let (low, mid, high, den) := interval m e
  let (lo, dl) := scaleTen low den p
  let (n, d) := scaleTen mid den p
  let (hi, dh) := scaleTen high den p
  let closed := m % 2 = 0
  let inside (k : Nat) : Bool :=
    if closed then ratioLe lo dl k 1 && ratioLe k 1 hi dh
    else ratioLt lo dl k 1 && ratioLt k 1 hi dh
  let below := n / d
  let above := below + 1
  match inside below && below != 0, inside above with
  | true, true =>
    let r := n % d
    if 2 * r < d then some below
    else if d < 2 * r then some above
    else some (below + below % 2)
  | true, false => some below
  | false, true => some above
  | false, false => none

/-- Number of decimal digits of the integer part of `num / den`, or the (non-positive)
place of its first digit. -/
def magnitude (num den : Nat) : Int :=
  let guess : Int := (((num.log2 : Int) - (den.log2 : Int)) * 30103) / 100000
  let reaches (k : Int) : Bool :=
    let (n, d) := scaleTen num den k
    d ≤ n
  if reaches (guess + 1) then guess + 2
  else if reaches guess then guess + 1
  else guess

def searchGrid (m : Nat) (e : Int) (size : Int) : Nat → Nat × Int
  | 0 => (m, 0)
  | fuel + 1 =>
    let count : Int := 17 - (fuel : Int)
    match onGrid m e (size - count) with
    | some k => (k, size - count)
    | none => searchGrid m e size fuel

/-- The shortest significand and its power of ten, for a positive `m · 2 ^ e`. -/
def digits (m : Nat) (e : Int) : Nat × Int :=
  let (_, mid, _, den) := interval m e
  searchGrid m e (magnitude mid den) 17

structure Layout where
  /-- Least and greatest place of the first digit that is still written without exponent. -/
  leastPlace : Int
  greatestPlace : Int
  /-- Fewest digits of an exponent. -/
  exponentWidth : Nat
  nanText : String
  infinityText : String

/-- Fixed notation from one ten-thousandth up to, but not including, ten to the sixteenth;
an exponent has a sign and at least two digits. -/
def plainLayout : Layout := ⟨-3, 16, 2, "nan", "inf"⟩

def padLeft (width : Nat) (s : List Char) : List Char :=
  List.replicate (width - s.length) '0' ++ s

def trimZeros (k : Nat) (p : Int) : Nat → Nat × Int
  | 0 => (k, p)
  | fuel + 1 => if k ≠ 0 ∧ k % 10 = 0 then trimZeros (k / 10) (p + 1) fuel else (k, p)

def layoutDigits (layout : Layout) (k : Nat) (p : Int) : List Char :=
  let (k, p) := trimZeros k p 20
  let ds := Nat.toDigits 10 k
  let place : Int := (ds.length : Int) + p
  if layout.leastPlace ≤ place ∧ place ≤ layout.greatestPlace then
    if place ≤ 0 then '0' :: '.' :: (List.replicate place.natAbs '0' ++ ds)
    else if p ≥ 0 then ds ++ List.replicate p.toNat '0' ++ ['.', '0']
    else ds.take place.toNat ++ ['.'] ++ ds.drop place.toNat
  else
    let mantissa := match ds with
      | [] => []
      | [d] => [d]
      | d :: rest => d :: '.' :: rest
    let power := place - 1
    let sign := if power < 0 then '-' else '+'
    mantissa ++ ['e', sign] ++ padLeft layout.exponentWidth (Nat.toDigits 10 power.natAbs)

def render (layout : Layout) : Binary64 → String
  | .nan => layout.nanText
  | .infinite negative => (if negative then "-" else "") ++ layout.infinityText
  | .finite negative m e =>
    let body := if m = 0 then ['0', '.', '0']
      else
        let (k, p) := digits m e
        layoutDigits layout k p
    String.ofList (if negative then '-' :: body else body)

def toText (x : Binary64) : String := x.render plainLayout

end TokenGate.Binary64
