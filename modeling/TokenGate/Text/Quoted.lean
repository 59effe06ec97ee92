import TokenGate.Text.Basic
import TokenGate.Text.Printable

/-! Quoted texts. The quote is `'`, unless the text has that one and not `"`. The quote,
the backslash and three controls have short escapes; any other character that cannot be
shown, and half of a pair, is written by its number, in as few of 2, 4 or 8 hexadecimal digits as
hold it. -/

set_option autoImplicit false

namespace TokenGate.Text

def hexDigit (n : Nat) : Char := Nat.digitChar n

/-- The low hexadecimal digits of a number, `width` of them. -/
def hexFixed : Nat → Nat → List Char
  | 0, _ => []
  | width + 1, n => hexFixed width (n / 16) ++ [hexDigit (n % 16)]

def quoteFor (points : List CodePoint) : Char :=
  if points.contains (.char '\'') && !points.contains (.char '"') then '"' else '\''

def escapeChar (quote c : Char) : List Char :=
  if c = quote ∨ c = '\\' then ['\\', c]
  else if c = '\n' then ['\\', 'n']
  else if c = '\r' then ['\\', 'r']
  else if c = '\t' then ['\\', 't']
  else if isPrintable c then [c]
  else if c.toNat < 0x100 then '\\' :: 'x' :: hexFixed 2 c.toNat
  else if c.toNat < 0x10000 then '\\' :: 'u' :: hexFixed 4 c.toNat
  else '\\' :: 'U' :: hexFixed 8 c.toNat

def escapePoint (quote : Char) : CodePoint → List Char
  | .char c => escapeChar quote c
  | .half n => '\\' :: 'u' :: hexFixed 4 (CodePoint.half n).toNat

def quoted (points : List CodePoint) : List Char :=
  let quote := quoteFor points
  quote :: points.flatMap (escapePoint quote) ++ [quote]

end TokenGate.Text
