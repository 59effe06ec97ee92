import TokenGate.Bytes

/-! Base64 in both alphabets. Canonical readers accept only what a writer produces; lenient readers
pass over foreign characters and end at a complete padding. -/

set_option autoImplicit false

namespace TokenGate.Base64

structure Alphabet where
  sixtyTwo : Char
  sixtyThree : Char

def standard : Alphabet := ⟨'+', '/'⟩

def urlSafe : Alphabet := ⟨'-', '_'⟩

def Alphabet.value? (a : Alphabet) (c : Char) : Option Nat :=
  let n := c.toNat
  if 'A' ≤ c ∧ c ≤ 'Z' then some (n - 65)
  else if 'a' ≤ c ∧ c ≤ 'z' then some (n - 71)
  else if '0' ≤ c ∧ c ≤ '9' then some (n + 4)
  else if c = a.sixtyTwo then some 62
  else if c = a.sixtyThree then some 63
  else none

def Alphabet.char (a : Alphabet) (n : Nat) : Char :=
  if n < 26 then Char.ofNat (n + 65)
  else if n < 52 then Char.ofNat (n + 71)
  else if n < 62 then Char.ofNat (n - 4)
  else if n = 62 then a.sixtyTwo
  else a.sixtyThree

/-- Sextets of an octet string; unused low bits of the last one are zero. -/
def sextets : Bytes → List Nat
  | [] => []
  | [a] => [a.toNat / 4, a.toNat % 4 * 16]
  | [a, b] => [a.toNat / 4, a.toNat % 4 * 16 + b.toNat / 16, b.toNat % 16 * 4]
  | a :: b :: c :: rest =>
    a.toNat / 4 :: (a.toNat % 4 * 16 + b.toNat / 16) :: (b.toNat % 16 * 4 + c.toNat / 64) ::
      c.toNat % 64 :: sextets rest

/-- The octets of sextets, if the unused bits are zero. -/
def octets : List Nat → Option Bytes
  | [] => some []
  | [_] => none
  | [a, b] => if b % 16 = 0 then some [UInt8.ofNat (a * 4 + b / 16)] else none
  | [a, b, c] =>
    if c % 4 = 0 then
      some [UInt8.ofNat (a * 4 + b / 16), UInt8.ofNat (b % 16 * 16 + c / 4)]
    else none
  | a :: b :: c :: d :: rest => do
    let tail ← octets rest
    some (UInt8.ofNat (a * 4 + b / 16) :: UInt8.ofNat (b % 16 * 16 + c / 4) ::
      UInt8.ofNat (c % 4 * 64 + d) :: tail)

def encodeBare (a : Alphabet) (bytes : Bytes) : List Char := (sextets bytes).map a.char

def decodeBare? (a : Alphabet) (cs : List Char) : Option Bytes := do
  octets (← cs.mapM a.value?)

def unpad (cs : List Char) : List Char × Nat :=
  match cs.reverse with
  | '=' :: '=' :: rest => (rest.reverse, 2)
  | '=' :: rest => (rest.reverse, 1)
  | _ => (cs, 0)

/-- Read with padding where the length asks for it. -/
def decodePadded? (a : Alphabet) (cs : List Char) : Option Bytes :=
  if cs.length % 4 = 0 then decodeBare? a (unpad cs).1 else none

def decode? (a : Alphabet) (cs : List Char) : Option Bytes :=
  if cs.getLast? = some '=' then decodePadded? a cs else decodeBare? a cs

/-- Where a lenient reader stands: how many sextets of a group it has, the bits that are not
written yet, and how many padding signs it saw since the last sextet. -/
structure Lenient where
  position : Nat
  bits : Nat
  pads : Nat

def Lenient.start : Lenient := ⟨0, 0, 0⟩

def Lenient.take (s : Lenient) (v : Nat) : Lenient × Bytes :=
  match s.position with
  | 0 => (⟨1, v, 0⟩, [])
  | 1 => (⟨2, v % 16, 0⟩, [UInt8.ofNat (s.bits * 4 + v / 16)])
  | 2 => (⟨3, v % 4, 0⟩, [UInt8.ofNat (s.bits * 16 + v / 4)])
  | _ => (⟨0, 0, 0⟩, [UInt8.ofNat (s.bits * 64 + v)])

def lenientFrom (value? : Char → Option Nat) (s : Lenient) : List Char → Option Bytes
  | [] => if s.position = 0 then some [] else none
  | c :: rest =>
    if c = '=' then
      if 2 ≤ s.position then
        if 4 ≤ s.position + s.pads + 1 then some []
        else lenientFrom value? { s with pads := s.pads + 1 } rest
      else lenientFrom value? s rest
    else match value? c with
      | none => lenientFrom value? s rest
      | some v =>
        let (s, bytes) := s.take v
        (lenientFrom value? s rest).map (bytes ++ ·)

def eitherValue? (c : Char) : Option Nat := (standard.value? c).or (urlSafe.value? c)

/-- Read either alphabet. The text has `size` octets, and padding is added up to the next
multiple of four. -/
def decodeLenient? (size : Nat) (cs : List Char) : Option Bytes :=
  lenientFrom eitherValue? .start (cs ++ List.replicate ((4 - size % 4) % 4) '=')

/-- Read one alphabet, with all the padding that is due. -/
def decodePassing? (a : Alphabet) (cs : List Char) : Option Bytes := lenientFrom a.value? .start cs

end TokenGate.Base64
