/-! Arithmetic modulo a number: powers, inverses, and a test for primes that errs with
negligible chance only. -/

set_option autoImplicit false

namespace TokenGate.Modular

/-- Square and multiply over the bits of the exponent, lowest first. -/
def powerFrom (modulus : Nat) : Nat → Nat → Nat → Nat → Nat
  | 0, _, _, acc => acc
  | bits + 1, base, exponent, acc =>
    powerFrom modulus bits (base * base % modulus) (exponent / 2)
      (if exponent % 2 = 1 then acc * base % modulus else acc)

def power (base exponent modulus : Nat) : Nat :=
  powerFrom modulus (exponent.log2 + 1) (base % modulus) exponent (1 % modulus)

/-- Euclid's steps on two remainders with their coefficients of the first number. -/
def euclid : Nat → Int → Int → Int → Int → Int × Int
  | 0, r, _, x, _ => (r, x)
  | steps + 1, r, s, x, y => if s = 0 then (r, x) else euclid steps s (r % s) y (x - r / s * y)

/-- The inverse of `a` modulo `m`, or zero if there is none. -/
def inverse (a m : Nat) : Nat :=
  let (g, x) := euclid (2 * (m.log2 + 2)) (a % m : Nat) m 1 0
  if g = 1 then (x % m).toNat else 0

def sub (a b m : Nat) : Nat := (a + (m - b % m)) % m

/-- How many squarings take a number to one, with no more than `steps` of them. -/
def squaringsToOne (p : Nat) : Nat → Nat → Nat
  | 0, _ => 0
  | steps + 1, t => if t = 1 then 0 else squaringsToOne p steps (t * t % p) + 1

def squared (p : Nat) : Nat → Nat → Nat
  | 0, x => x
  | steps + 1, x => squared p steps (x * x % p)

/-- Bring the remainder `t` to one by powers of a non-square, and the root `r` with it. -/
def rootFrom (p : Nat) : Nat → Nat → Nat → Nat → Nat → Nat
  | 0, _, _, _, r => r
  | steps + 1, m, c, t, r =>
    if t = 1 then r
    else
      let i := squaringsToOne p m t
      let b := squared p (m - i - 1) c
      let c := b * b % p
      rootFrom p steps i c (t * c % p) (r * b % p)

def reachesMinusOne (n : Nat) : Nat → Nat → Bool
  | 0, _ => false
  | steps + 1, x => x == n - 1 || reachesMinusOne n steps (x * x % n)

/-- Split off factors of two: the odd part and their number. -/
def oddPart : Nat → Nat → Nat → Nat × Nat
  | 0, n, count => (n, count)
  | steps + 1, n, count =>
    if n % 2 = 0 ∧ n ≠ 0 then oddPart steps (n / 2) (count + 1) else (n, count)

def witnesses : List Nat := [2, 3, 5, 7, 11, 13, 17, 19, 23, 29, 31, 37]

def root? (n p : Nat) : Option Nat :=
  let (odd, count) := oddPart (p.log2 + 1) (p - 1) 0
  let other := ((List.range 200).find? fun z => power z ((p - 1) / 2) p == p - 1).getD 0
  let r := rootFrom p (count + 1) count (power other odd p) (power n odd p)
    (power n ((odd + 1) / 2) p)
  if r * r % p = n % p then some r else none

def isPrime (n : Nat) : Bool :=
  if n < 2 then false
  else if witnesses.contains n then true
  else if witnesses.any fun w => n % w == 0 then false
  else
    let (odd, count) := oddPart (n.log2 + 1) (n - 1) 0
    witnesses.all fun w =>
      let x := power w odd n
      x == 1 || reachesMinusOne n count x

end TokenGate.Modular
