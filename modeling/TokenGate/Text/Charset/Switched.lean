import TokenGate.Text.Charset.Iso8859
import TokenGate.Text.Charset.Japanese
import TokenGate.Text.Charset.Chinese
import TokenGate.Text.Charset.Korean

/-! Charsets of ISO 2022: octets of seven bits, whose set is switched by sequences after an escape
octet. -/

set_option autoImplicit false

namespace TokenGate.Charset

/-- A set of characters of one octet or of two. -/
structure CodedSet where
  isWide : Bool
  char? : Nat → Nat → Option (List Char)

namespace CodedSet

def narrow (read : Nat → Option Char) : CodedSet := ⟨false, fun a _ => (read a).map fun c => [c]⟩

def wide (read : Nat → Nat → Option (List Char)) : CodedSet := ⟨true, byOctets lowFirst read⟩

/-- A set that is used for single characters only. -/
def upper : CodedSet := ⟨false, fun _ _ => none⟩

end CodedSet

/-- The name of a set: the last octet of its sequence, and whether it is of two octets. -/
structure SetName where
  isWide : Bool
  final : UInt8
  deriving Repr, DecidableEq

def asciiSet : SetName := ⟨false, 0x42⟩

def latinUpper : SetName := ⟨false, 0x41⟩
def greekUpper : SetName := ⟨false, 0x46⟩

structure Switched where
  sets : List (SetName × CodedSet)
  /-- Whether two octets shift to the second set and back. -/
  hasShifts : Bool
  /-- Whether single characters are taken from a third set. -/
  hasThird : Bool
  /-- Whether a set may be announced as a revised one. -/
  hasRevisions : Bool

namespace Switched

structure State where
  first : SetName
  second : SetName
  third : SetName
  isShifted : Bool
  /-- Whether a sequence of no meaning goes on. -/
  isThrough : Bool
  /-- Whether a single character was asked for of a set that gives none. -/
  isBroken : Bool
  deriving Repr, DecidableEq

def start : State := ⟨asciiSet, asciiSet, asciiSet, false, false, false⟩

def isFinal (b : UInt8) : Bool := 0x40 ≤ b && b ≤ 0x5a

/-- Octets that a sequence may begin with. -/
def isOpening (b : UInt8) : Bool := [0x28, 0x29, 0x24, 0x2e, 0x26].contains b

def sequenceLimit : Nat := 16

inductive Extent where
  | cutShort
  | endless
  /-- So many octets, the escape octet among them. -/
  | octets (size : Nat)
  deriving Repr, DecidableEq

/-- How far a sequence goes, seen from one of its octets. The mark of a revision, and the octet
behind it, do not end it. -/
def extentFrom (revisions : Bool) (sequence : Bytes) (i : Nat) : Extent :=
  if sequenceLimit ≤ i then .endless
  else match sequence[i]? with
    | none => .cutShort
    | some b =>
      if isFinal b then .octets (i + 1)
      else if revisions && b == 0x26 && sequence[i + 1]? == some 0x40 then
        extentFrom revisions sequence (i + 3)
      else extentFrom revisions sequence (i + 1)
termination_by sequenceLimit - i

inductive Place where
  | first
  | second
  | third
  deriving Repr, DecidableEq

def designation? (x : Switched) (sequence : Bytes) : Option (Place × SetName) :=
  match sequence with
  | [_, 0x24, final] => some (.first, ⟨true, final⟩)
  | [_, 0x28, final] => some (.first, ⟨false, final⟩)
  | [_, 0x29, final] => some (.second, ⟨false, final⟩)
  | [_, 0x2e, final] => if x.hasThird then some (.third, ⟨false, final⟩) else none
  | [_, 0x24, 0x28, final] => some (.first, ⟨true, final⟩)
  | [_, 0x24, 0x29, final] => some (.second, ⟨true, final⟩)
  | [_, _, _, 0x1b, 0x24, 0x42] => if x.hasRevisions then some (.first, ⟨true, 0x42⟩) else none
  | _ => none

def hasSet (x : Switched) (name : SetName) : Bool :=
  name == asciiSet || (x.sets.lookup name).isSome

def State.put (s : State) (place : Place) (name : SetName) : State :=
  match place with
  | .first => { s with first := name }
  | .second => { s with second := name }
  | .third => { s with third := name }

/-- A sequence that switches sets, or a fault as long as the sequence is. -/
def switch (x : Switched) (s : State) (bytes : Bytes) : Step State :=
  match extentFrom x.hasRevisions (bytes.take sequenceLimit) 1 with
  | .cutShort => (s, cutShort)
  | .endless => (s, [missing], bytes.drop 1)
  | .octets size =>
    match x.designation? (bytes.take size) with
    | some (place, name) =>
      if x.hasSet name then (s.put place name, [], bytes.drop size)
      else (s, [missing], bytes.drop size)
    | none => (s, [missing], bytes.drop size)

/-- Characters of the Greek upper half that came later than the charset. -/
def laterGreek : List Char := ['€', '₯', 'ͺ']

def singleSets : List SetName := [asciiSet, latinUpper, greekUpper]

def thirdChar? (name : SetName) (b : UInt8) : Option Char :=
  if name = latinUpper then if b < 0x80 then some (Char.ofNat (b.toNat + 0x80)) else none
  else if name = greekUpper then
    let c := iso7.char (b ^^^ 0x80)
    if c = missing ∨ laterGreek.contains c then none else some c
  else if name = asciiSet then ascii? b.toNat
  else none

/-- A single character of the third set, which may be one that no reader is prepared for. -/
def single (s : State) (c : UInt8) (behind : Bytes) : Step State :=
  if singleSets.contains s.third then (s, [(thirdChar? s.third c).getD missing], behind)
  else ({ s with isBroken := true }, [], behind)

def escape (x : Switched) (s : State) (rest : Bytes) : Step State :=
  match rest with
  | [] => (s, cutShort)
  | b :: behind =>
    if isOpening b then x.switch s (0x1b :: rest)
    else if x.hasThird && b == 0x4e then
      match behind with
      | [] => (s, cutShort)
      | c :: behind => single s c behind
    else ({ s with isThrough := true }, ['\x1b'], rest)

def inSet (x : Switched) (s : State) (a : UInt8) (rest : Bytes) : Step State :=
  let name := if s.isShifted then s.second else s.first
  match x.sets.lookup name with
  | none => (s, [Char.ofNat a.toNat], rest)
  | some set =>
    match set.isWide, rest with
    | false, _ => (s, (set.char? a.toNat 0).getD [missing], rest)
    | true, [] => (s, cutShort)
    | true, b :: behind => (s, (set.char? a.toNat b.toNat).getD [missing], behind)

def next (x : Switched) (s : State) (a : UInt8) (rest : Bytes) : Step State :=
  let same : List Char := [Char.ofNat a.toNat]
  if s.isThrough then ({ s with isThrough := !isFinal a }, same, rest)
  else if a = 0x1b then x.escape s rest
  else if a = 0x0e ∧ x.hasShifts then ({ s with isShifted := true }, [], rest)
  else if a = 0x0f ∧ x.hasShifts then ({ s with isShifted := false }, [], rest)
  else if a = 0x0a then ({ s with isShifted := false }, same, rest)
  else if a < 0x20 then (s, same, rest)
  else if 0x80 ≤ a then (s, [missing], rest)
  else x.inSet s a rest

def read (x : Switched) (bytes : Bytes) : Except Refusal (List Char) :=
  let (cs, s) := run x.next start bytes
  if s.isBroken then .error .broken else .ok cs

end Switched

/-! The charsets -/

def romanSet : SetName × CodedSet := (⟨false, 0x4a⟩, .narrow roman?)

def kanaSet : SetName × CodedSet := (⟨false, 0x49⟩, .narrow fun b => kana? (b + 0x80))

def jisSets : List (SetName × CodedSet) :=
  [(⟨true, 0x42⟩, .wide (single jis0208)), (⟨true, 0x40⟩, .wide (single jis0208)), romanSet]

def supplementSet : SetName × CodedSet := (⟨true, 0x44⟩, .wide (single jis0212))

def plainPlane? (e : Edition) (row column : Nat) : Option (List Char) :=
  if (row, column) = (1, 17) then some ['~'] else firstPlane? e row column

def jis0213Sets (e : Edition) (final : UInt8) : List (SetName × CodedSet) :=
  [(⟨true, 0x42⟩, .wide (single jis0208)), (⟨true, final⟩, .wide (plainPlane? e)),
   (⟨true, 0x50⟩, .wide (secondPlane? .second))]

def foreignSets : List (SetName × CodedSet) :=
  [(⟨true, 0x41⟩, .wide (single gb2312)), (⟨true, 0x43⟩, .wide (single ksx1001)),
   (latinUpper, .upper), (greekUpper, .upper)]

def switchedJis : Switched := ⟨jisSets, false, false, true⟩

def switchedJis1 : Switched := ⟨supplementSet :: jisSets, false, false, true⟩

def switchedJis2 : Switched := ⟨supplementSet :: jisSets ++ foreignSets, false, true, true⟩

def switchedJis3 : Switched := ⟨jis0213Sets .first 0x4f, false, false, true⟩

def switchedJis2004 : Switched := ⟨jis0213Sets .second 0x51, false, false, true⟩

def switchedJisWithKana : Switched := ⟨kanaSet :: supplementSet :: jisSets, false, false, true⟩

def switchedKorean : Switched := ⟨[(⟨true, 0x43⟩, .wide (single ksx1001))], true, false, false⟩

end TokenGate.Charset
