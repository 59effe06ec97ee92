import TokenGate.Asn1.Characters

/-! Moments in elements, with a year of two digits or of four, always in universal time. -/

set_option autoImplicit false

namespace TokenGate.Der

abbrev Moment := List Nat

def digitsValue? (bytes : Bytes) : Option Nat :=
  if bytes.all fun b => 0x30 ≤ b && b ≤ 0x39 then
    some (bytes.foldl (fun n b => 10 * n + (b.toNat - 0x30)) 0)
  else none

def isLeapYear (y : Nat) : Bool := y % 4 == 0 && (y % 100 != 0 || y % 400 == 0)

def daysOf (year month : Nat) : Nat :=
  if month = 2 then (if isLeapYear year then 29 else 28)
  else if [4, 6, 9, 11].contains month then 30
  else 31

def momentOf? (year : Nat) (bytes : Bytes) : Option Moment :=
  match (bytes.blocks 2).map digitsValue? with
  | [some month, some day, some hour, some minute, some second] =>
    if bytes.length = 10 ∧ 1 ≤ month ∧ month ≤ 12 ∧ 1 ≤ day ∧ day ≤ daysOf year month ∧
        hour < 24 ∧ minute < 60 ∧ second < 60 then
      some [year, month, day, hour, minute, second]
    else none
  | _ => none

def closingZone : UInt8 := 0x5a

/-- Years of two digits are those from 1950 to 2049. -/
def shortMoment? (bytes : Bytes) : Option Moment := do
  let digits := bytes.dropLast
  let y ← digitsValue? (digits.take 2)
  if bytes.getLast? ≠ some closingZone ∨ digits.length ≠ 12 then none
  else momentOf? (if y < 50 then 2000 + y else 1900 + y) (digits.drop 2)

def longMoment? (bytes : Bytes) : Option Moment := do
  let digits := bytes.dropLast
  let y ← digitsValue? (digits.take 4)
  if bytes.getLast? ≠ some closingZone ∨ digits.length ≠ 14 then none
  else momentOf? y (digits.drop 4)

/-- Most digits of a fraction of a second. -/
def fractionLimit : Nat := 9

/-- A long moment that may have a fraction, of which the last digit is not zero. The fraction
does not count. -/
def fineMoment? (bytes : Bytes) : Option Moment := do
  let whole := bytes.take 14
  match bytes.drop 14 with
  | 0x2e :: rest =>
    let fraction := rest.dropLast
    if rest.getLast? ≠ some closingZone ∨ fraction.isEmpty ∨ fractionLimit < fraction.length ∨
        (digitsValue? fraction).isNone ∨ fraction.getLast? = some 0x30 then none
    else longMoment? (whole ++ [closingZone])
  | _ => longMoment? bytes

def Element.time? (e : Element) : Option Moment :=
  if e.tag = shortTimeTag then shortMoment? e.content
  else if e.tag = longTimeTag then longMoment? e.content
  else none

end TokenGate.Der
