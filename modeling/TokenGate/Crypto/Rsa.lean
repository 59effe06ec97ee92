import TokenGate.Crypto.Modular
import TokenGate.Crypto.Hash

/-! RSA keys and signatures. A private key keeps both primes and the remainders of its exponent,
and only consistent parts make one. -/

set_option autoImplicit false

namespace TokenGate.Rsa

structure PublicKey where
  modulus : Nat
  exponent : Nat
  deriving Repr, DecidableEq

structure PrivateKey where
  toPublic : PublicKey
  exponent : Nat
  p : Nat
  q : Nat
  remainderP : Nat
  remainderQ : Nat
  coefficient : Nat
  deriving Repr, DecidableEq

namespace PublicKey

/-- The parts of a public key that is made anew: an odd exponent between 3 and the modulus. -/
def ofParts? (n e : Nat) : Option PublicKey :=
  if 3 ≤ n ∧ 3 ≤ e ∧ e < n ∧ e % 2 = 1 then some ⟨n, e⟩ else none

def size (k : PublicKey) : Nat := (k.modulus.log2 + 8) / 8

/-- Most bits of a modulus that is used, most bits of one with an exponent of any size, and most
bits of the exponent of a greater one. -/
def sizeLimit : Nat := 16384
def smallSize : Nat := 3072
def exponentLimit : Nat := 64

def isUsable (k : PublicKey) : Bool :=
  k.modulus % 2 == 1 && k.modulus < Nat.pow 2 sizeLimit && k.exponent < k.modulus &&
    (k.modulus < Nat.pow 2 smallSize || k.exponent < Nat.pow 2 exponentLimit)

end PublicKey

namespace PrivateKey

/-- Whether the parts fit together: two odd primes, exponents that undo each other, and the
remainders and the coefficient that follow from them. -/
def isConsistent (k : PrivateKey) : Bool :=
  let e := k.toPublic.exponent
  k.p * k.q == k.toPublic.modulus && e % 2 == 1 && e != 1 && k.p % 2 == 1 && k.q % 2 == 1 &&
    k.exponent * e % (k.p - 1) == 1 && k.exponent * e % (k.q - 1) == 1 &&
    k.remainderP == k.exponent % (k.p - 1) && k.remainderQ == k.exponent % (k.q - 1) &&
    k.coefficient < k.p && k.coefficient * k.q % k.p == 1 &&
    Modular.isPrime k.p && Modular.isPrime k.q

def ofStored? (n e d p q dp dq qi : Nat) : Option PrivateKey :=
  let k : PrivateKey := ⟨⟨n, e⟩, d, p, q, dp, dq, qi⟩
  if k.isConsistent then some k else none

/-- The parts of a private key that is made anew; none is as great as the modulus. -/
def ofParts? (n e d p q dp dq qi : Nat) : Option PrivateKey := do
  let k ← PublicKey.ofParts? n e
  if n ≤ d then none else ofStored? k.modulus k.exponent d p q dp dq qi

/-- A square root of one that is neither one nor minus one, among the squares of `x`. -/
def oddRoot? (n : Nat) : Nat → Nat → Option Nat
  | 0, _ => none
  | steps + 1, x =>
    let y := x * x % n
    if x ≠ 1 ∧ x ≠ n - 1 ∧ y = 1 then some x else oddRoot? n steps y

/-- The primes of a modulus, greater one first, from both exponents. -/
def primes? (n e d : Nat) : Option (Nat × Nat) :=
  if d ≤ 1 ∨ e ≤ 1 ∨ Modular.power 17 (e * d) n ≠ 17 % n then none
  else
    let (odd, count) := Modular.oddPart ((d * e).log2 + 1) (d * e - 1) 0
    let root := Modular.witnesses.findSome? fun a => oddRoot? n count (Modular.power a odd n)
    root.map fun x =>
      let p := Nat.gcd (x + 1) n
      let q := n / p
      (max p q, min p q)

def ofExponents? (n e d : Nat) : Option PrivateKey := do
  let (p, q) ← primes? n e d
  ofParts? n e d p q (d % (p - 1)) (d % (q - 1)) (Modular.inverse q p)

end PrivateKey

/-- What a digest is announced by inside a signature. -/
def digestHeader : Hash → Bytes
  | .md5 => [0x30, 0x20, 0x30, 0x0c, 0x06, 0x08, 0x2a, 0x86, 0x48, 0x86, 0xf7, 0x0d, 0x02, 0x05,
      0x05, 0x00, 0x04, 0x10]
  | .sha1 => [0x30, 0x21, 0x30, 0x09, 0x06, 0x05, 0x2b, 0x0e, 0x03, 0x02, 0x1a, 0x05, 0x00, 0x04,
      0x14]
  | .sha224 => second 0x2d 0x04 0x1c
  | .sha256 => second 0x31 0x01 0x20
  | .sha384 => second 0x41 0x02 0x30
  | .sha512 => second 0x51 0x03 0x40
where
  second (total name size : UInt8) : Bytes :=
    [0x30, total, 0x30, 0x0d, 0x06, 0x09, 0x60, 0x86, 0x48, 0x01, 0x65, 0x03, 0x04, 0x02, name,
      0x05, 0x00, 0x04, size]

/-- The block of `size` octets that is signed for a message; none if it does not fit. -/
def signedBlock? (hash : Hash) (size : Nat) (message : Bytes) : Option Bytes :=
  let digest := digestHeader hash ++ hash.run message
  if size < digest.length + 11 then none
  else some ([0, 1] ++ List.replicate (size - digest.length - 3) 0xff ++ [0] ++ digest)

/-- The block that a signature was made from; none if it is not of the key's size. -/
def openBlock? (k : PublicKey) (signature : Bytes) : Option Bytes :=
  let s := signature.toNat
  if !k.isUsable ∨ signature.length ≠ k.size ∨ k.modulus ≤ s then none
  else some (Bytes.ofNat k.size (Modular.power s k.exponent k.modulus))

def verify (hash : Hash) (k : PublicKey) (message signature : Bytes) : Bool :=
  match openBlock? k signature, signedBlock? hash k.size message with
  | some a, some b => a == b
  | _, _ => false

def sign? (hash : Hash) (k : PrivateKey) (message : Bytes) : Option Bytes :=
  (signedBlock? hash k.toPublic.size message).map fun block =>
    Bytes.ofNat k.toPublic.size (Modular.power block.toNat k.exponent k.toPublic.modulus)

/-- A mask of `size` octets grown from a seed. -/
def mask (hash : Hash) (size : Nat) (seed : Bytes) : Bytes :=
  ((List.range ((size + hash.size - 1) / hash.size)).flatMap fun i =>
    hash.run (seed ++ Bytes.ofNat 4 i)).take size

/-- Whether a masked block is a probabilistic signature of a message, with a salt as long as
the digest. The block has one bit less than the modulus. -/
def isSaltedBlock (hash : Hash) (bits : Nat) (message block : Bytes) : Bool :=
  let size := block.length
  let head := size - hash.size - 1
  if size < 2 * hash.size + 2 ∨ block.getLast? ≠ some 0xbc then false
  else
    let masked := block.take head
    let stamp := (block.drop head).take hash.size
    let spare := 8 * size - bits
    if (masked.headD 0).toNat ≥ Nat.pow 2 (8 - spare) then false
    else
      let plain := match Bytes.xor masked (mask hash head stamp) with
        | [] => []
        | b :: rest => UInt8.ofNat (b.toNat % Nat.pow 2 (8 - spare)) :: rest
      let zeros := head - hash.size - 1
      let salt := plain.drop (zeros + 1)
      (plain.take zeros).all (· == 0) && (plain.drop zeros).head? == some 1 &&
        hash.run (List.replicate 8 0 ++ hash.run message ++ salt) == stamp

def verifySalted (hash : Hash) (k : PublicKey) (message signature : Bytes) : Bool :=
  match openBlock? k signature with
  | none => false
  | some block =>
    let bits := k.modulus.log2
    let size := (bits + 7) / 8
    (block.take (block.length - size)).all (· == 0) &&
      isSaltedBlock hash bits message (block.drop (block.length - size))

end TokenGate.Rsa
