import TokenGate.Bytes
import TokenGate.Text.Basic

/-! UTF-8. A reader goes octet by octet: after a lead octet it knows how many more octets the
character has and in which range the next one lies, which leaves out long forms and numbers past
the last character. Surrogates are left out too, unless a reader passes them as lone halves. -/

set_option autoImplicit false

namespace TokenGate.Utf8

inductive State where
  | between
  /-- `owed + 1` octets are missing, the next one from `least` to `greatest`. -/
  | within (owed least greatest bits : Nat)
  deriving Repr, DecidableEq

def replacement : Char := '\ufffd'

/-- The character of a number; surrogates have none of their own. -/
def charOf (n : Nat) : Char :=
  if h : n.isValidChar then Char.ofNatAux n h else replacement

section

variable {α : Type} (make : Nat → α)

/-- The state after a lead octet, or what is made of the number that it is. -/
def lead (surrogates : Bool) (b : Nat) : Option (State × Option α) :=
  if b < 0x80 then some (.between, some (make b))
  else if b < 0xc2 then none
  else if b < 0xe0 then some (.within 0 0x80 0xbf (b - 0xc0), none)
  else if b = 0xe0 then some (.within 1 0xa0 0xbf 0, none)
  else if b = 0xed then some (.within 1 0x80 (if surrogates then 0xbf else 0x9f) 13, none)
  else if b < 0xf0 then some (.within 1 0x80 0xbf (b - 0xe0), none)
  else if b = 0xf0 then some (.within 2 0x90 0xbf 0, none)
  else if b < 0xf4 then some (.within 2 0x80 0xbf (b - 0xf0), none)
  else if b = 0xf4 then some (.within 2 0x80 0x8f 4, none)
  else none

/-- One octet: the next state and what ends there; none if it cannot stand here. -/
def step (surrogates : Bool) : State → Nat → Option (State × Option α)
  | .between, b => lead make surrogates b
  | .within owed least greatest bits, b =>
    if least ≤ b ∧ b ≤ greatest then
      let bits := 64 * bits + (b - 0x80)
      match owed with
      | 0 => some (.between, some (make bits))
      | owed + 1 => some (.within owed 0x80 0xbf bits, none)
    else none

def decodeFrom (surrogates : Bool) : State → Bytes → Option (List α)
  | .between, [] => some []
  | .within .., [] => none
  | s, b :: rest =>
    match step make surrogates s b.toNat with
    | none => none
    | some (s, some c) => (decodeFrom surrogates s rest).map (c :: ·)
    | some (s, none) => decodeFrom surrogates s rest

end

def decode? (bytes : Bytes) : Option (List Char) := decodeFrom charOf false .between bytes

def decodePassing? (bytes : Bytes) : Option (List CodePoint) :=
  decodeFrom CodePoint.ofNat true .between bytes

/-- Read on after an octet that cannot stand where it does: what was begun becomes one
replacement character, and the octet is tried as a lead octet. -/
def stepLossy (s : State) (b : Nat) : State × List Char :=
  match step charOf false s b, s with
  | some (s, c), _ => (s, c.toList)
  | none, .between => (.between, [replacement])
  | none, .within .. =>
    match lead charOf false b with
    | some (s, c) => (s, replacement :: c.toList)
    | none => (.between, [replacement, replacement])

def decodeLossyFrom : State → Bytes → List Char
  | .between, [] => []
  | .within .., [] => [replacement]
  | s, b :: rest =>
    let (s, cs) := stepLossy s b.toNat
    cs ++ decodeLossyFrom s rest

def decodeLossy (bytes : Bytes) : List Char := decodeLossyFrom .between bytes

def encodeChar (c : Char) : Bytes :=
  let n := c.toNat
  if n < 0x80 then [UInt8.ofNat n]
  else if n < 0x800 then [UInt8.ofNat (0xc0 + n / 64), UInt8.ofNat (0x80 + n % 64)]
  else if n < 0x10000 then
    [UInt8.ofNat (0xe0 + n / 4096), UInt8.ofNat (0x80 + n / 64 % 64), UInt8.ofNat (0x80 + n % 64)]
  else
    [UInt8.ofNat (0xf0 + n / 262144), UInt8.ofNat (0x80 + n / 4096 % 64),
     UInt8.ofNat (0x80 + n / 64 % 64), UInt8.ofNat (0x80 + n % 64)]

def encode (cs : List Char) : Bytes := cs.flatMap encodeChar

def ofString (s : String) : Bytes := encode s.toList

end TokenGate.Utf8
