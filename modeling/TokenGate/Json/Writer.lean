import TokenGate.Value.Basic

/-! Writing JSON in plain ASCII without spaces. -/

set_option autoImplicit false

namespace TokenGate.Json

def unitEscape (n : Nat) : List Char := '\\' :: 'u' :: Text.hexFixed 4 n

def escapeChar (c : Char) : List Char :=
  let n := c.toNat
  if c = '"' then ['\\', '"']
  else if c = '\\' then ['\\', '\\']
  else if c = '\n' then ['\\', 'n']
  else if c = '\r' then ['\\', 'r']
  else if c = '\t' then ['\\', 't']
  else if c = '\x08' then ['\\', 'b']
  else if c = '\x0c' then ['\\', 'f']
  else if 32 ≤ n ∧ n < 127 then [c]
  else if n < 0x10000 then unitEscape n
  else unitEscape (0xd800 + (n - 0x10000) / 0x400) ++ unitEscape (0xdc00 + (n - 0x10000) % 0x400)

def escapePoint : CodePoint → List Char
  | .char c => escapeChar c
  | .half n => unitEscape (CodePoint.half n).toNat

def writeString (s : Text) : List Char := '"' :: s.points.flatMap escapePoint ++ ['"']

def numberLayout : Binary64.Layout := ⟨-3, 16, 2, "NaN", "Infinity"⟩

mutual

def write : Value → List Char
  | .null => "null".toList
  | .bool true => "true".toList
  | .bool false => "false".toList
  | .int n => Text.intDigits n
  | .float x => (x.render numberLayout).toList
  | .str s => writeString s
  | .list items => '[' :: writeItems items ++ [']']
  | .object ms => '\x7b' :: writeMembers ms ++ ['\x7d']

def writeItems : List Value → List Char
  | [] => []
  | [v] => write v
  | v :: rest => write v ++ ',' :: writeItems rest

def writeMembers : List (Text × Value) → List Char
  | [] => []
  | [(name, v)] => writeString name ++ ':' :: write v
  | (name, v) :: rest => writeString name ++ ':' :: write v ++ ',' :: writeMembers rest

end

def text (v : Value) : String := String.ofList (write v)

end TokenGate.Json
