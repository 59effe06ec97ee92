import TokenGate.Text.Charset.Basic

/-! Octets of Latin text in which a backslash begins an escape for a character. -/

set_option autoImplicit false

namespace TokenGate.Charset.Escaped

def hexDigit? (b : UInt8) : Option Nat :=
  if 0x30 ≤ b ∧ b ≤ 0x39 then some (b.toNat - 0x30)
  else if 0x61 ≤ b ∧ b ≤ 0x66 then some (b.toNat - 0x57)
  else if 0x41 ≤ b ∧ b ≤ 0x46 then some (b.toNat - 0x37)
  else none

def hex : Nat → Nat → Bytes → Option Nat × Bytes
  | 0, n, rest => (some n, rest)
  | _ + 1, _, [] => (none, [])
  | size + 1, n, b :: rest =>
    match hexDigit? b with
    | some d => hex size (16 * n + d) rest
    | none => (none, b :: rest)

/-- The character of a number of so many digits; a fault ends in front of what is no digit. -/
def numbered (size : Nat) (bytes : Bytes) : List CodePoint × Bytes :=
  match hex size 0 bytes with
  | (some n, rest) => ([.ofNat n], rest)
  | (none, rest) => ([.char missing], rest)

def latin (b : UInt8) : CodePoint := .char (Char.ofNat b.toNat)

/-! Escapes for characters only -/

def nextPlain (a : UInt8) (rest : Bytes) : List CodePoint × Bytes :=
  if a ≠ 0x5c then ([latin a], rest)
  else match rest with
    | [] => ([latin a], [])
    | 0x75 :: behind => numbered 4 behind
    | 0x55 :: behind => numbered 8 behind
    | b :: behind => ([latin a, latin b], behind)

def readPlain (bytes : Bytes) : List CodePoint := read nextPlain bytes

/-! Escapes for controls too -/

def isOctal (b : UInt8) : Bool := 0x30 ≤ b && b ≤ 0x37

def octal : Nat → Nat → Bytes → Nat × Bytes
  | size + 1, n, b :: rest =>
    if isOctal b then octal size (8 * n + (b.toNat - 0x30)) rest else (n, b :: rest)
  | _, n, rest => (n, rest)

def letters : List (UInt8 × List Char) :=
  [(0x0a, []), (0x5c, ['\\']), (0x27, ['\'']), (0x22, ['"']), (0x62, ['\x08']), (0x66, ['\x0c']),
   (0x74, ['\t']), (0x6e, ['\n']), (0x72, ['\r']), (0x76, ['\x0b']), (0x61, ['\x07'])]

/-- A character by its name in braces. No name is known. -/
def named (rest : Bytes) : List CodePoint × Bytes :=
  match rest with
  | 0x7b :: name =>
    match name.span (· != 0x7d) with
    | ([], behind) => ([.char missing], behind)
    | (_, behind) => ([.char missing], behind.drop 1)
  | rest => ([.char missing], rest)

def nextFull (a : UInt8) (rest : Bytes) : List CodePoint × Bytes :=
  if a ≠ 0x5c then ([latin a], rest)
  else match rest with
    | [] => ([.char missing], [])
    | b :: behind =>
      match letters.lookup b with
      | some cs => (cs.map .char, behind)
      | none =>
        if isOctal b then
          let (n, behind) := octal 3 0 rest
          ([.ofNat n], behind)
        else if b = 0x78 then numbered 2 behind
        else if b = 0x75 then numbered 4 behind
        else if b = 0x55 then numbered 8 behind
        else if b = 0x4e then named behind
        else ([latin a, latin b], behind)

def readFull (bytes : Bytes) : List CodePoint := read nextFull bytes

end TokenGate.Charset.Escaped
