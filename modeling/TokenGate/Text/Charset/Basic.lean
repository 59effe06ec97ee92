import TokenGate.Text.Utf8

/-! Charsets tell what characters octets denote. Octets that denote none are read as the replacement
character, as many of them at once as the charset takes for one fault. -/

set_option autoImplicit false

namespace TokenGate.Charset

def missing : Char := Utf8.replacement

inductive Refusal where
  /-- The charset makes nothing of them. -/
  | unreadable
  /-- The reader itself breaks down. -/
  | broken
  deriving Repr, DecidableEq

/-- The next state, what a piece denotes, and the octets behind it. -/
abbrev Step (σ : Type) (α : Type := Char) := σ × List α × Bytes

section

variable {σ α : Type}

/-- Read piece by piece, each from its first octet and those behind it, up to a last state. -/
def run (next : σ → UInt8 → Bytes → Step σ α) (start : σ) (bytes : Bytes) : List α × σ :=
  go bytes.length start bytes
where
  go : Nat → σ → Bytes → List α × σ
    | fuel + 1, s, b :: rest =>
      let (s, cs, rest) := next s b rest
      let (later, s) := go fuel s rest
      (cs ++ later, s)
    | _, s, _ => ([], s)

def readWith (next : σ → UInt8 → Bytes → Step σ α) (finish : σ → List α) (start : σ)
    (bytes : Bytes) : List α :=
  let (cs, s) := run next start bytes
  cs ++ finish s

def read (next : UInt8 → Bytes → List α × Bytes) (bytes : Bytes) : List α :=
  readWith (fun _ b rest => ((), next b rest)) (fun _ => []) () bytes

end

/-- A piece, if it denotes something, or else a fault of one octet. -/
def pieceOr (cs : Option (List Char)) (behind rest : Bytes) : List Char × Bytes :=
  match cs with
  | some cs => (cs, behind)
  | none => ([missing], rest)

/-- A piece that is cut short is one fault up to the end. -/
def cutShort : List Char × Bytes := ([missing], [])

/-- Charsets of one octet a character, of which the first ones stand for themselves. -/
structure Octets where
  /-- Characters of the last octets. -/
  tail : Array Char

namespace Octets

def ofTail (tail : String) : Octets := ⟨tail.toList.toArray⟩

def latin : Octets := ofTail ""

def ascii : Octets := ⟨Array.replicate 128 missing⟩

def char (o : Octets) (b : UInt8) : Char :=
  let first := 256 - o.tail.size
  if b.toNat < first then Char.ofNat b.toNat else o.tail.getD (b.toNat - first) missing

def read (o : Octets) (bytes : Bytes) : List Char := bytes.map o.char

end Octets

structure Paired where
  single? : Nat → Option Char
  pair? : Nat → Nat → Option (List Char)

namespace Paired

def next (p : Paired) (a : UInt8) (rest : Bytes) : List Char × Bytes :=
  match p.single? a.toNat, rest with
  | some c, _ => ([c], rest)
  | none, [] => cutShort
  | none, b :: behind => pieceOr (p.pair? a.toNat b.toNat) behind rest

def read (p : Paired) (bytes : Bytes) : List Char := Charset.read p.next bytes

end Paired

def ascii? (b : Nat) : Option Char := if b < 0x80 then some (Char.ofNat b) else none

end TokenGate.Charset
