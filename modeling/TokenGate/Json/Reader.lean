import TokenGate.Value.Basic

/-! Reading JSON, with `NaN`, `Infinity` and `-Infinity` as further numbers. A number without
fraction and exponent is an integer, any other one a binary64 number. Of two members with
one name the last one counts. -/

set_option autoImplicit false

namespace TokenGate.Json

inductive Error where
  | malformed
  /-- An integer of more digits than can be read. -/
  | integerTooLong (size : Nat)
  | tooDeep
  deriving Repr, DecidableEq

/-- What readers differ in. -/
structure Dialect where
  /-- Most objects and lists that may be open at once. -/
  depth : Nat
  /-- Whether an empty object or list may stand in the deepest one. -/
  emptyBelow : Bool
  /-- Whether an escape may stand for half of a pair. -/
  loneHalves : Bool
  /-- Whether the bound on the size of integers holds for what stands in front of any fraction or
  exponent, with the minus. -/
  boundsWhole : Bool

def isSpace (p : CodePoint) : Bool :=
  p == .char ' ' || p == .char '\t' || p == .char '\n' || p == .char '\r'

def skipSpace (cs : List CodePoint) : List CodePoint := cs.dropWhile isSpace

def hexValue? : CodePoint → Option Nat
  | .half _ => none
  | .char c =>
    if '0' ≤ c ∧ c ≤ '9' then some (c.toNat - 48)
    else if 'a' ≤ c ∧ c ≤ 'f' then some (c.toNat - 87)
    else if 'A' ≤ c ∧ c ≤ 'F' then some (c.toNat - 55)
    else none

def unit? (a b c d : CodePoint) : Option Nat := do
  let a ← hexValue? a
  let b ← hexValue? b
  let c ← hexValue? c
  let d ← hexValue? d
  some (((a * 16 + b) * 16 + c) * 16 + d)

def isHigh (n : Nat) : Bool := 0xd800 ≤ n && n < 0xdc00

def isLow (n : Nat) : Bool := 0xdc00 ≤ n && n < 0xe000

def joinHalves (high low : Nat) : Char :=
  Char.ofNat (0x10000 + (high - 0xd800) * 0x400 + (low - 0xdc00))

def shortEscape? : CodePoint → Option Char
  | .char '"' => some '"'
  | .char '\\' => some '\\'
  | .char '/' => some '/'
  | .char 'b' => some '\x08'
  | .char 'f' => some '\x0c'
  | .char 'n' => some '\n'
  | .char 'r' => some '\r'
  | .char 't' => some '\t'
  | _ => none

/-- The second half of a pair, when an escape for one comes next. -/
def lowHalf? : List CodePoint → Option Nat
  | .char '\\' :: .char 'u' :: a :: b :: c :: d :: _ => (unit? a b c d).filter isLow
  | _ => none

/-- A text up to its closing quote, and what follows it. The first half of an escaped pair waits in
`high` for the second one. -/
def stringFrom (dialect : Dialect) (high : Option Nat) :
    List CodePoint → Except Error (List CodePoint × List CodePoint)
  | [] => .error .malformed
  | .char '"' :: rest => .ok ([], rest)
  | .char '\\' :: .char 'u' :: a :: b :: c :: d :: rest =>
    match unit? a b c d with
    | none => .error .malformed
    | some n =>
      match high with
      | some h => (stringFrom dialect none rest).map fun r => (.char (joinHalves h n) :: r.1, r.2)
      | none =>
        if isHigh n && (lowHalf? rest).isSome then stringFrom dialect (some n) rest
        else if !dialect.loneHalves && (isHigh n || isLow n) then .error .malformed
        else (stringFrom dialect none rest).map fun r => (.ofNat n :: r.1, r.2)
  | .char '\\' :: c :: rest =>
    match shortEscape? c with
    | none => .error .malformed
    | some c => (stringFrom dialect none rest).map fun r => (.char c :: r.1, r.2)
  | p :: rest =>
    if p.toNat < 32 then .error .malformed
    else (stringFrom dialect none rest).map fun r => (p :: r.1, r.2)

def isDecimal : CodePoint → Bool
  | .char c => '0' ≤ c && c ≤ '9'
  | .half _ => false

def decimalDigits (cs : List CodePoint) : List CodePoint × List CodePoint := cs.span isDecimal

def natOfDigits (ds : List CodePoint) : Nat := ds.foldl (fun n c => 10 * n + (c.toNat - 48)) 0

/-- The integer part: a lone zero, or digits that do not start with one. -/
def integerPart : List CodePoint → Option (List CodePoint × List CodePoint)
  | .char '0' :: rest => some ([.char '0'], rest)
  | c :: rest => if isDecimal c then some (decimalDigits (c :: rest)) else none
  | [] => none

def fractionPart : List CodePoint → Option (List CodePoint × List CodePoint)
  | .char '.' :: c :: rest => if isDecimal c then some (decimalDigits (c :: rest)) else none
  | _ => none

def signedDigits : List CodePoint → Option (Int × List CodePoint)
  | .char '-' :: c :: rest =>
    if isDecimal c then
      let (ds, tail) := decimalDigits (c :: rest)
      some (-(natOfDigits ds : Int), tail)
    else none
  | .char '+' :: c :: rest =>
    if isDecimal c then
      let (ds, tail) := decimalDigits (c :: rest)
      some ((natOfDigits ds : Int), tail)
    else none
  | c :: rest =>
    if isDecimal c then
      let (ds, tail) := decimalDigits (c :: rest)
      some ((natOfDigits ds : Int), tail)
    else none
  | [] => none

def exponentPart : List CodePoint → Option (Int × List CodePoint)
  | .char 'e' :: rest => signedDigits rest
  | .char 'E' :: rest => signedDigits rest
  | _ => none

def magnitude (dialect : Dialect) (negative : Bool) (cs : List CodePoint) :
    Except Error (Value × List CodePoint) :=
  match integerPart cs with
  | none => .error .malformed
  | some (whole, rest) =>
    let size := whole.length + if negative then 1 else 0
    if dialect.boundsWhole && Text.greatestSize < size then .error (.integerTooLong whole.length)
    else
      let fraction := fractionPart rest
      let rest := (fraction.map (·.2)).getD rest
      let power := exponentPart rest
      let rest := (power.map (·.2)).getD rest
      match fraction, power with
      | none, none =>
        if Text.greatestSize < whole.length then .error (.integerTooLong whole.length)
        else
          let n : Int := natOfDigits whole
          .ok (.int (if negative then -n else n), rest)
      | _, _ =>
        let fraction := (fraction.map (·.1)).getD []
        let power := (power.map (·.1)).getD 0
        .ok (.float (Binary64.ofDecimal negative (natOfDigits (whole ++ fraction))
          (power - fraction.length)), rest)

def scalar (dialect : Dialect) : List CodePoint → Except Error (Value × List CodePoint)
  | .char 'n' :: .char 'u' :: .char 'l' :: .char 'l' :: rest => .ok (.null, rest)
  | .char 't' :: .char 'r' :: .char 'u' :: .char 'e' :: rest => .ok (.bool true, rest)
  | .char 'f' :: .char 'a' :: .char 'l' :: .char 's' :: .char 'e' :: rest => .ok (.bool false, rest)
  | .char 'N' :: .char 'a' :: .char 'N' :: rest => .ok (.float .nan, rest)
  | .char 'I' :: .char 'n' :: .char 'f' :: .char 'i' :: .char 'n' :: .char 'i' :: .char 't' ::
      .char 'y' :: rest =>
    .ok (.float (.infinite false), rest)
  | .char '-' :: .char 'I' :: .char 'n' :: .char 'f' :: .char 'i' :: .char 'n' :: .char 'i' ::
      .char 't' :: .char 'y' :: rest =>
    .ok (.float (.infinite true), rest)
  | .char '-' :: rest => magnitude dialect true rest
  | cs => magnitude dialect false cs

/-- The items of a list after its first bracket, up to the closing one. No list has more
items than characters, which bounds the first argument. -/
def itemsFrom (read : List CodePoint → Except Error (Value × List CodePoint)) :
    Nat → List CodePoint → Except Error (List Value × List CodePoint)
  | 0, _ => .error .malformed
  | fuel + 1, cs => do
    let (v, rest) ← read (skipSpace cs)
    match skipSpace rest with
    | .char ']' :: rest => .ok ([v], rest)
    | .char ',' :: rest =>
      let (vs, rest) ← itemsFrom read fuel rest
      .ok (v :: vs, rest)
    | _ => .error .malformed

def membersFrom (dialect : Dialect)
    (read : List CodePoint → Except Error (Value × List CodePoint)) :
    Nat → List CodePoint → Except Error (List (Text × Value) × List CodePoint)
  | 0, _ => .error .malformed
  | fuel + 1, cs =>
    match skipSpace cs with
    | .char '"' :: rest => do
      let (name, rest) ← stringFrom dialect none rest
      match skipSpace rest with
      | .char ':' :: rest =>
        let (v, rest) ← read (skipSpace rest)
        match skipSpace rest with
        | .char '\x7d' :: rest => .ok ([(Text.ofPoints name, v)], rest)
        | .char ',' :: rest =>
          let (ms, rest) ← membersFrom dialect read fuel rest
          .ok ((Text.ofPoints name, v) :: ms, rest)
        | _ => .error .malformed
      | _ => .error .malformed
    | _ => .error .malformed

/-- The members of an object after its brace, each as often as it is written. -/
def pairsFrom (dialect : Dialect) (read : List CodePoint → Except Error (Value × List CodePoint))
    (cs : List CodePoint) : Except Error (List (Text × Value) × List CodePoint) :=
  match skipSpace cs with
  | .char '\x7d' :: rest => .ok ([], rest)
  | cs => membersFrom dialect read cs.length cs

/-- The value at the start of a text, with `depth` lists or objects left to open. -/
def valueFrom (dialect : Dialect) : Nat → List CodePoint → Except Error (Value × List CodePoint)
  | _, .char '"' :: rest =>
    (stringFrom dialect none rest).map fun r => (.str (Text.ofPoints r.1), r.2)
  | 0, .char '[' :: rest =>
    match dialect.emptyBelow, skipSpace rest with
    | true, .char ']' :: rest => .ok (.list [], rest)
    | _, _ => .error .tooDeep
  | 0, .char '\x7b' :: rest =>
    match dialect.emptyBelow, skipSpace rest with
    | true, .char '\x7d' :: rest => .ok (.object [], rest)
    | _, _ => .error .tooDeep
  | depth + 1, .char '[' :: rest =>
    match skipSpace rest with
    | .char ']' :: rest => .ok (.list [], rest)
    | cs => (itemsFrom (valueFrom dialect depth) cs.length cs).map fun r => (.list r.1, r.2)
  | depth + 1, .char '\x7b' :: rest =>
    (pairsFrom dialect (valueFrom dialect depth) rest).map fun r =>
      (.object (Members.ofPairs r.1), r.2)
  | _, cs => scalar dialect cs

def read (dialect : Dialect) (cs : List CodePoint) : Except Error Value := do
  let (v, rest) ← valueFrom dialect dialect.depth (skipSpace cs)
  if (skipSpace rest).isEmpty then .ok v else .error .malformed

def readPairs (dialect : Dialect) (cs : List CodePoint) : Except Error (List (Text × Value)) :=
  match skipSpace cs with
  | .char '\x7b' :: rest => do
    let (pairs, rest) ← pairsFrom dialect (valueFrom dialect (dialect.depth - 1)) rest
    if (skipSpace rest).isEmpty then .ok pairs else .error .malformed
  | _ => .error .malformed

def plain : Dialect := ⟨980, false, true, false⟩

end TokenGate.Json
