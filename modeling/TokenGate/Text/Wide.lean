import TokenGate.Text.Utf8

/-! UTF-16 and UTF-32, in either order of octets. -/

set_option autoImplicit false

namespace TokenGate.Wide

inductive Order where
  | little
  | big
  deriving Repr, DecidableEq

def unit (order : Order) (bytes : Bytes) : Nat :=
  match order with
  | .big => bytes.toNat
  | .little => Bytes.toNat bytes.reverse

def isHighSurrogate (n : Nat) : Bool := 0xd800 ≤ n && n < 0xdc00

def isLowSurrogate (n : Nat) : Bool := 0xdc00 ≤ n && n < 0xe000

/-- The units of `size` octets; a last one that is cut short is given as none. -/
def units (size : Nat) (order : Order) (bytes : Bytes) : List (Option Nat) :=
  (bytes.blocks size).map fun block =>
    if block.length = size then some (unit order block) else none

/-- Characters of UTF-16 units; none stands for each place that denotes no character. -/
def chars16 : List (Option Nat) → List (Option Char)
  | [] => []
  | none :: rest => none :: chars16 rest
  | some high :: some low :: rest =>
    if isHighSurrogate high then
      if isLowSurrogate low then
        some (Char.ofNat (0x10000 + (high - 0xd800) * 0x400 + (low - 0xdc00))) :: chars16 rest
      else none :: chars16 (some low :: rest)
    else if isLowSurrogate high then none :: chars16 (some low :: rest)
    else some (Char.ofNat high) :: chars16 (some low :: rest)
  | [some n] =>
    if isHighSurrogate n || isLowSurrogate n then [none] else [some (Char.ofNat n)]
  | some n :: none :: rest =>
    if isHighSurrogate n then none :: chars16 rest
    else if isLowSurrogate n then none :: none :: chars16 rest
    else some (Char.ofNat n) :: none :: chars16 rest

def char32 : Option Nat → Option Char
  | none => none
  | some n => if h : n.isValidChar then some (Char.ofNatAux n h) else none

def read16 (order : Order) (bytes : Bytes) : List (Option Char) := chars16 (units 2 order bytes)

def read32 (order : Order) (bytes : Bytes) : List (Option Char) := (units 4 order bytes).map char32

def encode16 (cs : List Char) : Bytes :=
  cs.flatMap fun c =>
    let n := c.toNat
    if n < 0x10000 then Bytes.ofNat 2 n
    else Bytes.ofNat 2 (0xd800 + (n - 0x10000) / 0x400) ++
      Bytes.ofNat 2 (0xdc00 + (n - 0x10000) % 0x400)

def strict (cs : List (Option Char)) : Option (List Char) := cs.mapM id

def points16 : List Nat → List CodePoint
  | high :: low :: rest =>
    if isHighSurrogate high && isLowSurrogate low then
      .ofNat (0x10000 + (high - 0xd800) * 0x400 + (low - 0xdc00)) :: points16 rest
    else .ofNat high :: points16 (low :: rest)
  | [n] => [.ofNat n]
  | [] => []

def passing16? (order : Order) (bytes : Bytes) : Option (List CodePoint) :=
  ((units 2 order bytes).mapM id).map points16

def passing32? (order : Order) (bytes : Bytes) : Option (List CodePoint) :=
  (units 4 order bytes).mapM fun n => (n.filter (· < 0x110000)).map CodePoint.ofNat

/-- All places, with the replacement character where none is denoted. -/
def lossy (cs : List (Option Char)) : List Char := cs.map fun c => c.getD Utf8.replacement

/-- A mark of the order at the start, if there is one, and the rest. -/
def markedOrder16 : Bytes → Order × Bytes
  | 0xff :: 0xfe :: rest => (.little, rest)
  | 0xfe :: 0xff :: rest => (.big, rest)
  | bytes => (.little, bytes)

def markedOrder32 : Bytes → Order × Bytes
  | 0xff :: 0xfe :: 0 :: 0 :: rest => (.little, rest)
  | 0 :: 0 :: 0xfe :: 0xff :: rest => (.big, rest)
  | bytes => (.little, bytes)

end TokenGate.Wide
