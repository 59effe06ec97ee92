import TokenGate.Value.Basic
import TokenGate.Text.Capital

/-! Scalars of a payload, read generously: a whole binary64 number is an integer too, and a text
is taken for the number or the truth value that it spells. -/

set_option autoImplicit false

namespace TokenGate.Scalar

/-- Whole binary64 numbers are taken for integers up to, but not including, this size. -/
def wholeLimit : Int := Nat.pow 2 63

def ofWhole? (x : Binary64) : Option Int :=
  x.integral?.filter fun n => -wholeLimit < n && n < wholeLimit

def trim (cs : List Char) : List Char :=
  ((cs.dropWhile Text.isNumeralBlank).reverse.dropWhile Text.isNumeralBlank).reverse

def isDigit (c : Char) : Bool := '0' ≤ c && c ≤ '9'

def dropZeroFraction (cs : List Char) : List Char :=
  match Text.cutFirst '.' cs with
  | some (whole, '0' :: fraction) => if fraction.all (· == '0') then whole else cs
  | _ => cs

def isFiller (c : Char) : Bool := c == '0' || c == '_'

/-- A text that starts with a digit, without the zeros in front and the underscores among them;
one of these stays before a point or the end. -/
def dropLeadingZeros? : List Char → Option (List Char)
  | [] => none
  | c :: rest =>
    if !isDigit c then none
    else if c ≠ '0' then some (c :: rest)
    else
      let kept := (c :: rest.takeWhile isFiller).getLast?.toList
      match rest.dropWhile isFiller with
      | [] => some kept
      | '.' :: tail => some (kept ++ '.' :: tail)
      | tail => some tail

def hasDoubleUnderscore : List Char → Bool
  | '_' :: '_' :: _ => true
  | _ :: rest => hasDoubleUnderscore rest
  | [] => false

def ungrouped? (cs : List Char) : Option (List Char) :=
  if cs.head? = some '_' || cs.getLast? = some '_' || hasDoubleUnderscore cs then none
  else some (cs.filter (· != '_'))

def natOf (ds : List Char) : Nat := ds.foldl (fun n c => 10 * n + (c.toNat - 48)) 0

def natural? (ds : List Char) : Option Nat :=
  if ds.isEmpty || !ds.all isDigit || (ds.head? = some '0' && ds.length != 1)
  then none else some (natOf ds)

/-- The integer that a text spells in the plain way. Its sign counts as one of the
characters that it may have. -/
def integer? (cs : List Char) : Option Int :=
  if Text.greatestSize < cs.length then none
  else match cs with
    | '-' :: ds => (natural? ds).map fun n => -(n : Int)
    | ds => (natural? ds).map Int.ofNat

/-- The integer of a text after its sign. What is left of it once zeros, fraction and
underscores are gone is read with the minus in front again. -/
def unsigned? (negative : Bool) (cs : List Char) : Option Int := do
  let digits ← ungrouped? (dropZeroFraction (← dropLeadingZeros? cs))
  integer? (if negative then '-' :: digits else digits)

def intOfText? (cs : List Char) : Option Int :=
  match trim cs with
  | '+' :: rest => unsigned? false rest
  | '-' :: rest => unsigned? true rest
  | rest => unsigned? false rest

def int? : Value → Option Int
  | .int n => some n
  | .bool b => some (if b then 1 else 0)
  | .float x => ofWhole? x
  | .str (.proper s) => intOfText? s.toList
  | _ => none

def exponent? (cs : List Char) : Option Int :=
  let digits (negative : Bool) (ds : List Char) : Option Int :=
    if ds.isEmpty || !ds.all isDigit then none
    else some (if negative then -(natOf ds : Int) else natOf ds)
  match cs with
  | '-' :: ds => digits true ds
  | '+' :: ds => digits false ds
  | ds => digits false ds

def isExponentMark (c : Char) : Bool := c == 'e' || c == 'E'

/-- Digits, perhaps with a point before, among or after them, and perhaps an exponent. -/
def decimal? (negative : Bool) (cs : List Char) : Option Binary64 := do
  let (body, tail) := cs.span fun c => !isExponentMark c
  let power ← match tail with
    | [] => some 0
    | _ :: ds => exponent? ds
  let (whole, fraction) := (Text.cutFirst '.' body).getD (body, [])
  if (whole ++ fraction).isEmpty || !(whole ++ fraction).all isDigit then none
  else some (Binary64.ofDecimal negative (natOf (whole ++ fraction)) (power - fraction.length))

def magnitude? (negative : Bool) (cs : List Char) : Option Binary64 :=
  match String.ofList (Text.smalls cs) with
  | "inf" => some (.infinite negative)
  | "infinity" => some (.infinite negative)
  | "nan" => some .nan
  | _ => decimal? negative cs

def signed? : List Char → Option Binary64
  | '-' :: rest => magnitude? true rest
  | '+' :: rest => magnitude? false rest
  | rest => magnitude? false rest

/-- The binary64 number that a text spells, with blanks around it or with underscores in it. -/
def floatOfText? (cs : List Char) : Option Binary64 :=
  match signed? (trim cs) with
  | some x => some x
  | none => (ungrouped? cs).bind signed?

def float? : Value → Option Binary64
  | .int n => some (.ofInt n)
  | .bool b => some (.ofInt (if b then 1 else 0))
  | .float x => some x
  | .str (.proper s) => floatOfText? s.toList
  | _ => none

def truthOfInt? (n : Int) : Option Bool :=
  if n = 0 then some false else if n = 1 then some true else none

def truthWords : List (String × Bool) :=
  [("0", false), ("f", false), ("n", false), ("no", false), ("off", false), ("false", false),
   ("1", true), ("t", true), ("y", true), ("yes", true), ("on", true), ("true", true)]

def bool? : Value → Option Bool
  | .bool b => some b
  | .int n => truthOfInt? n
  | .float x => (ofWhole? x).bind truthOfInt?
  | .str (.proper s) => truthWords.lookup (String.ofList (Text.smalls s.toList))
  | _ => none

end TokenGate.Scalar
