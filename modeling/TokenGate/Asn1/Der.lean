import TokenGate.Bytes

/-! Elements in distinguished encoding: a tag, a length in the fewest octets, the contents.
Readers of the basic types accept one encoding of each value only. -/

set_option autoImplicit false

namespace TokenGate.Der

structure Element where
  /-- The identifier octet, and above it the number of a tag that is too great for it. -/
  tag : Nat
  content : Bytes
  deriving Repr, DecidableEq

def booleanTag : Nat := 0x01
def integerTag : Nat := 0x02
def bitsTag : Nat := 0x03
def octetsTag : Nat := 0x04
def nullTag : Nat := 0x05
def oidTag : Nat := 0x06
def sequenceTag : Nat := 0x30
def setTag : Nat := 0x31

def contextTag (n : Nat) : Nat := 0x80 + n
def wrapperTag (n : Nat) : Nat := 0xa0 + n

def base128From : Nat → Bytes → Option (Nat × Bytes)
  | _, [] => none
  | n, b :: rest =>
    let n := 128 * n + b.toNat % 128
    if b < 0x80 then some (n, rest) else base128From n rest

/-- Most bits of a number in base 128, and of a tag. -/
def numberLimit : Nat := 128
def tagLimit : Nat := 32

/-- A number in base 128 without a leading zero, all octets but the last one marked. -/
def base128? (bytes : Bytes) : Option (Nat × Bytes) :=
  if bytes.head? = some 0x80 then none
  else (base128From 0 bytes).filter fun r => r.1 < Nat.pow 2 numberLimit

/-- A tag; only numbers from 31 on stand in octets of their own. -/
def tag? : Bytes → Option (Nat × Bytes)
  | [] => none
  | b :: rest =>
    if b.toNat % 32 ≠ 31 then some (b.toNat, rest)
    else do
      let (n, rest) ← base128? rest
      if n < 31 ∨ Nat.pow 2 tagLimit ≤ n then none else some (b.toNat + 256 * n, rest)

def lengthLimit : Nat := 4

def length? : Bytes → Option (Nat × Bytes)
  | [] => none
  | b :: rest =>
    if b < 0x80 then some (b.toNat, rest)
    else
      let size := b.toNat - 0x80
      let digits := rest.take size
      let n := Bytes.toNat digits
      if size = 0 ∨ lengthLimit < size ∨ digits.length < size then none
      else if digits.head? = some 0 ∨ n < 0x80 then none
      else some (n, rest.drop size)

def element? (bytes : Bytes) : Option (Element × Bytes) := do
  let (tag, rest) ← tag? bytes
  let (n, rest) ← length? rest
  if rest.length < n then none else some (⟨tag, rest.take n⟩, rest.drop n)

def elementsFrom : Nat → Bytes → Option (List Element)
  | _, [] => some []
  | 0, _ => none
  | fuel + 1, bytes => do
    let (e, rest) ← element? bytes
    let es ← elementsFrom fuel rest
    some (e :: es)

/-- The elements that octets consist of. An element has two octets at least. -/
def elements? (bytes : Bytes) : Option (List Element) := elementsFrom bytes.length bytes

def single? (bytes : Bytes) : Option Element :=
  match element? bytes with
  | some (e, []) => some e
  | _ => none

def base128Digits : Nat → Nat → Bytes
  | 0, _ => []
  | fuel + 1, n =>
    if n = 0 then [] else base128Digits fuel (n / 128) ++ [UInt8.ofNat (128 + n % 128)]

def base128 (n : Nat) : Bytes :=
  base128Digits (n.log2 + 1) (n / 128) ++ [UInt8.ofNat (n % 128)]

def tagOctets (tag : Nat) : Bytes :=
  if tag < 256 then [UInt8.ofNat tag] else UInt8.ofNat (tag % 256) :: base128 (tag / 256)

def lengthOctets (n : Nat) : Bytes :=
  if n < 0x80 then [UInt8.ofNat n]
  else
    let size := (n.log2 + 8) / 8
    UInt8.ofNat (0x80 + size) :: Bytes.ofNat size n

def Element.encode (e : Element) : Bytes :=
  tagOctets e.tag ++ lengthOctets e.content.length ++ e.content

def sequence (es : List Element) : Element := ⟨sequenceTag, es.flatMap Element.encode⟩

def ofNat (n : Nat) : Element :=
  ⟨integerTag, Bytes.ofNat (n.log2 / 8 + 1 + (if n.log2 % 8 = 7 then 1 else 0)) n⟩

def Element.contentOf? (tag : Nat) (e : Element) : Option Bytes :=
  if e.tag = tag then some e.content else none

def Element.items? (tag : Nat) (e : Element) : Option (List Element) :=
  (e.contentOf? tag).bind elements?

/-- The element with another tag, as it would be without its context. -/
def Element.retag (tag : Nat) (e : Element) : Element := { e with tag := tag }

def Element.inner? (e : Element) : Option Element := single? e.content

def isSorted : List Bytes → Bool
  | a :: b :: rest => decide (a ≤ b) && isSorted (b :: rest)
  | _ => true

/-- The members of a set, which stand in the order of their octets. -/
def Element.members? (tag : Nat) (e : Element) : Option (List Element) :=
  (e.items? tag).filter fun es => isSorted (es.map Element.encode)

def isInteger : Bytes → Bool
  | [] => false
  | [_] => true
  | a :: b :: _ => !((a == 0 && b < 0x80) || (a == 0xff && b ≥ 0x80))

def natOf? (bytes : Bytes) : Option Nat :=
  match bytes with
  | [] => none
  | a :: _ => if isInteger bytes && a < 0x80 then some (Bytes.toNat bytes) else none

def Element.nat? (e : Element) : Option Nat := (e.contentOf? integerTag).bind natOf?

def Element.word? (bits : Nat) (e : Element) : Option Nat := e.nat?.filter (· < Nat.pow 2 bits)

def Element.isInteger (e : Element) : Bool := (e.contentOf? integerTag).any Der.isInteger

def Element.boolean? (e : Element) : Option Bool :=
  match e.contentOf? booleanTag with
  | some [0] => some false
  | some [0xff] => some true
  | _ => none

def identifierLimit : Nat := 63

def arcsFrom : Nat → Bytes → Option (List Nat)
  | _, [] => some []
  | 0, _ => none
  | fuel + 1, bytes => do
    let (n, rest) ← base128? bytes
    let ns ← arcsFrom fuel rest
    some (n :: ns)

/-- Whether octets are an object identifier: one number in base 128 after another. -/
def isIdentifier (bytes : Bytes) : Bool :=
  !bytes.isEmpty && bytes.length ≤ identifierLimit && (arcsFrom bytes.length bytes).isSome

def Element.identifier? (e : Element) : Option Bytes :=
  (e.contentOf? oidTag).filter isIdentifier

/-- The octets of the object identifier with these numbers, of which the first two share one. -/
def identifier : List Nat → Bytes
  | a :: b :: rest => ((40 * a + b) :: rest).flatMap base128
  | _ => []

/-- The octets of a string of bits, of which unused ones at the end are zero. -/
def Element.bits? (e : Element) : Option Bytes :=
  match e.contentOf? bitsTag with
  | some (unused :: bytes) =>
    let n := unused.toNat
    match bytes.getLast? with
    | none => if n = 0 then some [] else none
    | some last => if n < 8 ∧ last.toNat % Nat.pow 2 n = 0 then some bytes else none
  | _ => none

def Element.octets? (e : Element) : Option Bytes := e.contentOf? octetsTag

def Element.isNull (e : Element) : Bool := e == ⟨nullTag, []⟩

abbrev Fields (α : Type) := StateT (List Element) Option α

namespace Fields

def next {α : Type} (read : Element → Option α) : Fields α := fun es =>
  match es with
  | [] => none
  | e :: rest => (read e).map (·, rest)

def ifTag {α : Type} (isWanted : Nat → Bool) (read : Element → Option α) : Fields (Option α) :=
  fun es =>
    match es with
    | [] => some (none, [])
    | e :: rest =>
      if isWanted e.tag then (read e).map fun a => (some a, rest) else some (none, e :: rest)

def perhaps {α : Type} (tag : Nat) (read : Element → Option α) : Fields (Option α) :=
  ifTag (· == tag) read

/-- A field inside a wrapper of this number, if it is there. -/
def wrapped {α : Type} (n : Nat) (read : Element → Option α) : Fields (Option α) :=
  perhaps (wrapperTag n) fun e => e.inner?.bind read

/-- A field whose own tag is replaced by that of its context, if it is there. -/
def tagged {α : Type} (n tag : Nat) (read : Element → Option α) : Fields (Option α) :=
  perhaps (contextTag n) fun e => read (e.retag tag)

def taggedParts {α : Type} (n tag : Nat) (read : Element → Option α) : Fields (Option α) :=
  perhaps (wrapperTag n) fun e => read (e.retag tag)

def all {α : Type} (f : Fields α) (es : List Element) : Option α :=
  match f.run es with
  | some (a, []) => some a
  | _ => none

end Fields

def Element.fields? {α : Type} (f : Fields α) (e : Element) : Option α :=
  (e.items? sequenceTag).bind f.all

def Element.each? {α : Type} (read : Element → Option α) (e : Element) : Option (List α) :=
  (e.items? sequenceTag).bind fun es => es.mapM read

end TokenGate.Der
