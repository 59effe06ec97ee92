import TokenGate.Crypto.Hash
import TokenGate.Crypto.Modular
import TokenGate.Crypto.Shake

/-! Curves `ax² + y² = 1 + dx²y²` over a prime field, and signatures on them. A point is written as
its `y`, lowest octet first, with the parity of `x` in the highest bit. -/

set_option autoImplicit false

namespace TokenGate

inductive Edwards where
  | ed25519
  | ed448
  deriving Repr, DecidableEq

namespace Edwards

structure Parameters where
  field : Nat
  a : Nat
  d : Nat
  baseX : Nat
  baseY : Nat
  order : Nat

def parameters : Edwards → Parameters
  | ed25519 => {
      field := Nat.pow 2 255 - 19
      a := Nat.pow 2 255 - 20
      d := 0x52036cee2b6ffe738cc740797779e89800700a4d4141d8ab75eb4dca135978a3
      baseX := 0x216936d3cd6e53fec0a4e231fdd6dc5c692cc7609525a7b2c9562d608f25d51a
      baseY := 0x6666666666666666666666666666666666666666666666666666666666666658
      order := Nat.pow 2 252 + 27742317777372353535851937790883648493 }
  | ed448 => {
      field := Nat.pow 2 448 - Nat.pow 2 224 - 1
      a := 1
      d := Nat.pow 2 448 - Nat.pow 2 224 - 39082
      baseX := 0x4f1970c66bed0ded221d15a622bf36da9e146570470f1767ea6de324a3d3a46412ae1af72ab66511433b80e18b00938e2626a82bc70cc05e
      baseY := 0x693f46716eb6bc248876203756c9c7624bea73736ca3984087789c1e05a0c2d73ad3ff1ce67c39c4fdbd132c4ed7c8ad9808795bf230fa14
      order := Nat.pow 2 446 - 13818066809895115352007386748515426880336692474882178609894547503885 }

def size : Edwards → Nat
  | ed25519 => 32
  | ed448 => 57

/-- A point as a pair of fractions with one denominator. -/
structure Point where
  x : Nat
  y : Nat
  z : Nat
  deriving Repr, DecidableEq

def origin : Point := ⟨0, 1, 1⟩

def base (c : Edwards) : Point := ⟨c.parameters.baseX, c.parameters.baseY, 1⟩

def add (c : Edwards) (p q : Point) : Point :=
  let k := c.parameters
  let m := k.field
  let zz := p.z * q.z % m
  let square := zz * zz % m
  let xx := p.x * q.x % m
  let yy := p.y * q.y % m
  let e := k.d * xx % m * yy % m
  let f := Modular.sub square e m
  let g := (square + e) % m
  let cross := Modular.sub ((p.x + p.y) * (q.x + q.y)) (xx + yy) m
  ⟨zz * f % m * cross % m, zz * g % m * Modular.sub yy (k.a * xx) m % m, f * g % m⟩

def negated (c : Edwards) (p : Point) : Point :=
  { p with x := Modular.sub 0 p.x c.parameters.field }

def timesFrom (c : Edwards) : Nat → Nat → Point → Point → Point
  | 0, _, _, acc => acc
  | bits + 1, n, p, acc =>
    timesFrom c bits (n / 2) (c.add p p) (if n % 2 = 1 then c.add acc p else acc)

def times (c : Edwards) (n : Nat) (p : Point) : Point := timesFrom c (n.log2 + 1) n p origin

def isSame (c : Edwards) (p q : Point) : Bool :=
  let m := c.parameters.field
  p.x * q.z % m == q.x * p.z % m && p.y * q.z % m == q.y * p.z % m

def littleNat (bytes : Bytes) : Nat := Bytes.toNat bytes.reverse

def encode (c : Edwards) (p : Point) : Bytes :=
  let m := c.parameters.field
  let w := Modular.inverse p.z m
  let x := p.x * w % m
  let y := p.y * w % m
  (Bytes.ofNat c.size (y + x % 2 * Nat.pow 2 (8 * c.size - 1))).reverse

def root? (c : Edwards) (n : Nat) : Option Nat :=
  let m := c.parameters.field
  let isRoot (r : Nat) : Bool := r * r % m == n % m
  let candidates := match c with
    | ed25519 =>
      let r := Modular.power n ((m + 3) / 8) m
      [r, r * Modular.power 2 ((m - 1) / 4) m % m]
    | ed448 => [Modular.power n ((m + 1) / 4) m]
  candidates.find? isRoot

/-- A point that is written in octets. Only the smaller curve takes a `y` beyond its field for the
one that it is congruent to. -/
def decode? (c : Edwards) (bytes : Bytes) : Option Point :=
  let k := c.parameters
  let m := k.field
  let n := littleNat bytes
  let top := Nat.pow 2 (8 * c.size - 1)
  let y := n % top
  if bytes.length ≠ c.size ∨ (c = ed448 ∧ m ≤ y) then none
  else
    let square := Modular.sub (y * y) 1 m *
      Modular.inverse (Modular.sub (k.d * (y * y)) k.a m) m % m
    (c.root? square).map fun x =>
      ⟨if x % 2 = n / top then x else (m - x) % m, y % m, 1⟩

def digest (c : Edwards) (bytes : Bytes) : Bytes :=
  match c with
  | ed25519 => Hash.sha512.run bytes
  | ed448 => Shake.hash 114 bytes

def domain : Edwards → Bytes
  | ed25519 => []
  | ed448 => [0x53, 0x69, 0x67, 0x45, 0x64, 0x34, 0x34, 0x38, 0, 0]

/-- The factor of a private key: half its digest, with the bits at both ends set as they have to
be. -/
def factor (c : Edwards) (seed : Bytes) : Nat :=
  let n := littleNat ((c.digest seed).take c.size)
  match c with
  | ed25519 => n % Nat.pow 2 254 / 8 * 8 + Nat.pow 2 254
  | ed448 => n % Nat.pow 2 447 / 4 * 4 + Nat.pow 2 447

def publicOf (c : Edwards) (seed : Bytes) : Bytes := c.encode (c.times (c.factor seed) c.base)

/-- Whether a signature was made with the private part of a public key. On the larger curve points
that differ by one of small order count as the same. -/
def verify (c : Edwards) (key message signature : Bytes) : Bool :=
  let first := signature.take c.size
  let s := littleNat (signature.drop c.size)
  if signature.length ≠ 2 * c.size ∨ c.parameters.order ≤ s then false
  else match c.decode? key with
    | none => false
    | some p =>
      let h := littleNat (c.digest (c.domain ++ first ++ key ++ message)) % c.parameters.order
      let r := c.add (c.times s c.base) (c.times h (c.negated p))
      match c with
      | ed25519 => c.encode r == first
      | ed448 =>
        match c.decode? first with
        | none => false
        | some q => c.isSame (c.times 4 r) (c.times 4 q)

end Edwards

end TokenGate
