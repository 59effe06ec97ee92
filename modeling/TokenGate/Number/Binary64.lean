/-! Binary64 numbers as exact values: a sign, a significand and a power of two.
Nothing here rounds except `roundRatio`, which takes the nearest number and
settles a tie on the even significand. -/

set_option autoImplicit false

namespace TokenGate

inductive Binary64 where
  | nan
  | infinite (negative : Bool)
  /-- The number `±significand · 2 ^ exponent`; zero keeps its sign. -/
  | finite (negative : Bool) (significand : Nat) (exponent : Int)
  deriving Repr, DecidableEq, Inhabited

/-- A number line with both ends closed, on which integers and binary64 numbers
are compared without rounding. -/
inductive Extended where
  | bottom
  | number (q : Rat)
  | top
  deriving DecidableEq

namespace Extended

def lt : Extended → Extended → Bool
  | .bottom, .bottom => false
  | .bottom, _ => true
  | _, .bottom => false
  | .top, _ => false
  | .number _, .top => true
  | .number a, .number b => decide (a < b)

end Extended

namespace Binary64

def precision : Nat := 53

def leastExponent : Int := -1074

def greatestExponent : Int := 971

def zero (negative : Bool) : Binary64 := .finite negative 0 leastExponent

def powerOfTwo : Int → Rat
  | .ofNat n => ((Nat.pow 2 n : Nat) : Rat)
  | .negSucc n => mkRat 1 (Nat.pow 2 (n + 1))

def toRat (negative : Bool) (significand : Nat) (exponent : Int) : Rat :=
  let magnitude := (significand : Rat) * powerOfTwo exponent
  if negative then -magnitude else magnitude

/-- Place on the extended line; not a number has none. -/
def extended? : Binary64 → Option Extended
  | .nan => none
  | .infinite negative => some (if negative then .bottom else .top)
  | .finite negative m e => some (.number (toRat negative m e))

/-- Nearest integer to `num / den`; a half goes to the even neighbour. -/
def roundHalfEven (num den : Nat) : Nat :=
  let q := num / den
  let twice := 2 * (num % den)
  if twice < den then q
  else if den < twice then q + 1
  else q + q % 2

/-- Multiply `num / den` by `2 ^ (-e)`, as a ratio again. -/
def scaleDown (num den : Nat) (e : Int) : Nat × Nat :=
  match e with
  | .ofNat n => (num, den * Nat.pow 2 n)
  | .negSucc n => (num * Nat.pow 2 (n + 1), den)

/-- Exponent at which `num / den` has a significand of 53 bits, or the least one. -/
def exponentFor (num den : Nat) : Int :=
  let guess : Int := (num.log2 : Int) - (den.log2 : Int) - (precision : Int)
  let (n, d) := scaleDown num den guess
  let e := if d * Nat.pow 2 precision ≤ n then guess + 1 else guess
  max e leastExponent

def roundRatio (negative : Bool) (num den : Nat) : Binary64 :=
  if num = 0 then zero negative
  else
    let e := exponentFor num den
    let (n, d) := scaleDown num den e
    let m := roundHalfEven n d
    let (m, e) := if m = Nat.pow 2 precision then (Nat.pow 2 (precision - 1), e + 1) else (m, e)
    if greatestExponent < e then .infinite negative else .finite negative m e

/-- Decimal exponents past which every non-zero number is infinite, or zero. -/
def decimalReach : Int := 400

def ofDecimal (negative : Bool) (digits : Nat) (power : Int) : Binary64 :=
  if digits = 0 then zero negative
  else
    let size : Int := ((digits.log2 : Int) * 30103) / 100000 + power
    if decimalReach < size then .infinite negative
    else if size < -decimalReach then zero negative
    else match power with
      | .ofNat p => roundRatio negative (digits * Nat.pow 10 p) 1
      | .negSucc p => roundRatio negative digits (Nat.pow 10 (p + 1))

def ofInt (n : Int) : Binary64 := roundRatio (n < 0) n.natAbs 1

def truncate? : Binary64 → Option Int
  | .finite negative m e =>
    let magnitude : Nat := match e with
      | .ofNat n => m * Nat.pow 2 n
      | .negSucc n => m / Nat.pow 2 (n + 1)
    some (if negative then -(magnitude : Int) else magnitude)
  | _ => none

def integral? (x : Binary64) : Option Int :=
  match x with
  | .finite _ m e =>
    match e with
    | .ofNat _ => x.truncate?
    | .negSucc n => if m % Nat.pow 2 (n + 1) = 0 then x.truncate? else none
  | _ => none

def isZero : Binary64 → Bool
  | .finite _ m _ => m == 0
  | _ => false

end Binary64

end TokenGate
