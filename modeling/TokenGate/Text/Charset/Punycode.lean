import TokenGate.Text.Charset.Basic

/-! Punycode: the ASCII characters of a text, a minus, and where which others come in between, in
numbers of varying base. -/

set_option autoImplicit false

namespace TokenGate.Punycode

def digit? (b : UInt8) : Option Nat :=
  if 0x61 ≤ b ∧ b ≤ 0x7a then some (b.toNat - 0x61)
  else if 0x41 ≤ b ∧ b ≤ 0x5a then some (b.toNat - 0x41)
  else if 0x30 ≤ b ∧ b ≤ 0x39 then some (b.toNat - 0x30 + 26)
  else none

/-- The value from which on a digit at a place is not the last one. -/
def threshold (place bias : Nat) : Nat := min 26 (max 1 (36 * (place + 1) - bias))

def number? (bias : Nat) : Nat → Nat → Nat → Bytes → Option (Nat × Bytes)
  | _, _, _, [] => none
  | place, weight, n, b :: rest => do
    let d ← digit? b
    let t := threshold place bias
    let n := n + d * weight
    if d < t then some (n, rest) else number? bias (place + 1) (weight * (36 - t)) n rest

def divisions : Nat → Nat → Nat → Nat × Nat
  | 0, delta, count => (delta, count)
  | fuel + 1, delta, count =>
    if 455 < delta then divisions fuel (delta / 35) (count + 1) else (delta, count)

/-- The bias after a number, by how many characters there are then. -/
def adapt (delta : Nat) (isFirst : Bool) (size : Nat) : Nat :=
  let delta := if isFirst then delta / 700 else delta / 2
  let delta := delta + delta / size
  let (delta, count) := divisions delta delta 0
  36 * count + 36 * delta / (delta + 38)

structure State where
  next : Nat
  code : Nat
  bias : Nat
  isFirst : Bool
  deriving Repr, DecidableEq

def start : State := ⟨0, 0x80, 72, true⟩

/-- Put in character after character, until a number is broken. A number past the last character
means a question mark. -/
def insertFrom : Nat → State → List CodePoint → Bytes → List CodePoint
  | 0, _, cs, _ => cs
  | fuel + 1, s, cs, bytes =>
    match number? s.bias 0 1 0 bytes with
    | none => cs
    | some (delta, rest) =>
      let place := s.next + delta
      let code := s.code + place / (cs.length + 1)
      let code := if 0x10ffff < code then 0x3f else code
      let place := place % (cs.length + 1)
      let cs := cs.take place ++ .ofNat code :: cs.drop place
      insertFrom fuel ⟨place + 1, code, adapt delta s.isFirst cs.length, false⟩ cs rest

/-- Octets in front of the last minus and behind it. -/
def parts (bytes : Bytes) : Bytes × Bytes :=
  let behind := (bytes.reverse.takeWhile (· != 0x2d)).reverse
  (bytes.take (bytes.length - behind.length - 1), behind)

def read (bytes : Bytes) : Except Charset.Refusal (List CodePoint) :=
  let (plain, numbers) := parts bytes
  if numbers.all (· < 0x80) then
    let ascii := (Charset.Octets.ascii.read plain).map .char
    .ok (insertFrom numbers.length start ascii numbers)
  else .error .unreadable

end TokenGate.Punycode
