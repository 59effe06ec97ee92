import TokenGate.Base64
import TokenGate.Text.Blank

/-! Sections of octets inside a text, between a line that begins and one that ends them. All
sections of a text have to be well-formed, whichever one is wanted. -/

set_option autoImplicit false

namespace TokenGate.Pem

structure Section where
  label : List Char
  /-- Lines in front of the first blank line, each with a colon. -/
  headers : List (List Char × List Char)
  content : Bytes
  deriving Repr

/-- Go on until what is wanted of a mark has been seen. A character that breaks a mark off is not
tried as the first one of another mark. -/
def through (mark : List Char) : List Char → List Char → Option (List Char × List Char)
  | [], cs => some ([], cs)
  | _ :: _, [] => none
  | want :: wants, c :: cs =>
    (through mark (if c = want then wants else mark) cs).map fun (a, b) => (c :: a, b)

def cut (mark cs : List Char) : Option (List Char × List Char) :=
  (through mark mark cs).map fun (a, b) => (a.take (a.length - mark.length), b)

def isSpace (c : Char) : Bool := c == ' ' || c == '\t' || c == '\n' || c == '\r'

/-- Lines without their ends; a return in front of an end belongs to it. -/
def lines (cs : List Char) : List (List Char) :=
  let parts := Text.splitAt '\n' cs
  let parts := if parts.getLast? = some [] then parts.dropLast else parts
  parts.map fun line => if line.getLast? = some '\r' then line.dropLast else line

def isLayout (c : Char) : Bool := Text.isBlank c && !(28 ≤ c.toNat && c.toNat ≤ 31)

def octets? (body : List Char) : Option Bytes :=
  Base64.decodePadded? Base64.standard (body.filter fun c => !isLayout c)

def header? (line : List Char) : Option (List Char × List Char) :=
  (Text.cutFirst ':' line).map fun (name, v) => (Text.trim name, Text.trim v)

def divide (cs : List Char) : List Char × List Char :=
  match cut ['\n', '\n'] cs with
  | some (headers, body) => (headers, body)
  | none =>
    match cut ['\r', '\n', '\r', '\n'] cs with
    | some (headers, body) => (headers, body)
    | none => ([], cs)

def next? (cs : List Char) : Option (List Char × List Char × List Char × List Char) := do
  let (_, cs) ← cut "-----BEGIN ".toList cs
  let (label, cs) ← cut "-----".toList cs
  let (body, cs) ← cut "-----END ".toList (cs.dropWhile isSpace)
  let (ending, cs) ← cut "-----".toList cs
  some (label, body, ending, cs)

def section? (label body ending : List Char) : Option Section := do
  if label.isEmpty ∨ label ≠ ending then none
  else
    let (headers, body) := divide body
    some ⟨label, ← (lines headers).mapM header?, ← octets? body⟩

def sectionsFrom : Nat → List Char → Option (List Section)
  | 0, _ => some []
  | fuel + 1, cs =>
    match next? cs with
    | none => some []
    | some (label, body, ending, rest) => do
      let s ← section? label body ending
      let ss ← sectionsFrom fuel rest
      some (s :: ss)

def sections? (cs : List Char) : Option (List Section) := sectionsFrom cs.length cs

/-- The first section of a text, whatever follows it. -/
def first? (cs : List Char) : Option Section :=
  (next? cs).bind fun (label, body, ending, _) => section? label body ending

def find? (labels : List String) (cs : List Char) : Option Section := do
  (← sections? cs).find? fun s => labels.any fun label => label.toList == s.label

end TokenGate.Pem
