import TokenGate.Text.Blank
import TokenGate.Text.Digit
import TokenGate.Text.Quoted

/-! Integers written in decimal: an optional sign, then digits of any script, with single
underscores between digits. Blanks may stand around. A numeral of more than `greatestSize`
digits is refused before its value is formed, and integers that long are not written either. -/

set_option autoImplicit false

namespace TokenGate.Text

/-- Most digits that an integer may be read or written with. -/
def greatestSize : Nat := 4300

inductive NumeralError where
  | malformed (text : Text)
  | tooLong (size : Nat)
  deriving Repr, DecidableEq

/-- Blanks around a numeral; the separator controls are none of them. -/
def isNumeralBlank (c : Char) : Bool :=
  isBlank c && !(28 ≤ c.toNat && c.toNat ≤ 31)

/-- The digits after the first one of a numeral, most significant first, and the rest of
the text; an underscore counts only between two digits. -/
def takeDigits : List Char → List Nat × List Char
  | [] => ([], [])
  | '_' :: c :: rest =>
    match decimalValue? c with
    | some d =>
      let (ds, tail) := takeDigits rest
      (d :: ds, tail)
    | none => ([], '_' :: c :: rest)
  | c :: rest =>
    match decimalValue? c with
    | some d =>
      let (ds, tail) := takeDigits rest
      (d :: ds, tail)
    | none => ([], c :: rest)

def ofDigits (ds : List Nat) : Nat := ds.foldl (fun n d => 10 * n + d) 0

def readMagnitude (text : Text) : List Char → Except NumeralError Nat
  | [] => .error (.malformed text)
  | c :: rest =>
    match decimalValue? c with
    | none => .error (.malformed text)
    | some first =>
      let (ds, tail) := takeDigits rest
      let size := ds.length + 1
      if tail.head? = some '_' then .error (.malformed text)
      else if greatestSize < size then .error (.tooLong size)
      else if tail.all isNumeralBlank then .ok (ofDigits (first :: ds))
      else .error (.malformed text)

def readInt (text : List Char) : Except NumeralError Int :=
  match text.dropWhile isNumeralBlank with
  | '-' :: rest => (readMagnitude (String.ofList text) rest).map fun n => -(n : Int)
  | '+' :: rest => (readMagnitude (String.ofList text) rest).map Int.ofNat
  | rest => (readMagnitude (String.ofList text) rest).map Int.ofNat

/-- Half of a pair has no place in a numeral, but what stands in front of it may be too long to be
looked at further. -/
def readNumeral : Text → Except NumeralError Int
  | .proper s => readInt s.toList
  | .halved t =>
    match readInt (t.points.map fun p => p.char?.getD '?') with
    | .error (.tooLong size) => .error (.tooLong size)
    | _ => .error (.malformed (.halved t))

def quotationLimit : Nat := 200

def NumeralError.message : NumeralError → String
  | .malformed text =>
    "invalid literal for int() with base 10: " ++
      String.ofList ((quoted text.points).take quotationLimit)
  | .tooLong size =>
    s!"Exceeds the limit ({greatestSize} digits) for integer string conversion: value has {size}" ++
      " digits; use sys.set_int_max_str_digits() to increase the limit"

def intDigits (n : Int) : List Char :=
  if n < 0 then '-' :: Nat.toDigits 10 n.natAbs else Nat.toDigits 10 n.natAbs

def writable (n : Int) : Bool := decide (n.natAbs < Nat.pow 10 greatestSize)

end TokenGate.Text
