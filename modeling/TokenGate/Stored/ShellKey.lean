import TokenGate.Base64
import TokenGate.Stored.PublicKey
import TokenGate.Text.Utf8

/-! Public keys as remote shells keep them: a line with the name of a kind of key and, in base64,
the same name and the parts of the key. A certificate is a key with further fields around it. -/

set_option autoImplicit false

namespace TokenGate.ShellKey

abbrev Reader (α : Type) := StateT Bytes (Except Kind) α

def octets (size : Nat) : Reader Bytes := fun bytes =>
  if bytes.length < size then .error .value else .ok (bytes.take size, bytes.drop size)

def unsigned (size : Nat) : Reader Nat := Bytes.toNat <$> octets size

def field : Reader Bytes := do octets (← unsigned 4)

def number : Reader Nat := do
  let bytes ← field
  if bytes.head?.any (· ≥ 0x80) then throw .value else pure bytes.toNat

def whole {α : Type} (read : Reader α) (bytes : Bytes) : Except Kind α := do
  let (a, rest) ← read.run bytes
  if rest.isEmpty then .ok a else .error .value

/-- Read the same again and again. An item has one octet at least. -/
def each {α : Type} (read : Reader α) (bytes : Bytes) : Except Kind (List α) :=
  go bytes.length bytes
where
  go : Nat → Bytes → Except Kind (List α)
    | _, [] => .ok []
    | 0, _ => .error .value
    | fuel + 1, bytes => do
      let (a, rest) ← read.run bytes
      let others ← go fuel rest
      .ok (a :: others)

def rsa : Reader PublicKey := do
  let e ← number
  let n ← number
  PublicKey.orMalformed ((Rsa.PublicKey.ofParts? n e).map .rsa)

/-- Bits of the prime and of the order of a group that signatures are made in. -/
def primeBits : Nat := 1024
def orderBits : List Nat := [160, 224, 256]

def dsa : Reader PublicKey := do
  let p ← number
  let q ← number
  let g ← number
  let _ ← number
  if p.log2 + 1 = primeBits ∧ orderBits.contains (q.log2 + 1) ∧ 1 < g ∧ g < p then pure .other
  else throw .value

def edwards : Reader PublicKey := do
  let point ← field
  if point.length = Edwards.ed25519.size then pure (.edwards .ed25519 point) else throw .value

def onCurve (c : Curve) (name : String) : Reader PublicKey := do
  let told ← field
  let point ← field
  if told ≠ Utf8.ofString name then throw .value
  else match point with
    | [] => throw .index
    | form :: _ =>
      if form ≠ 4 then throw .notImplemented
      else PublicKey.orMalformed ((c.point? point).map (.curve c))

def rsaName : Bytes := Utf8.ofString "ssh-rsa"

def kinds : List (Bytes × Reader PublicKey) :=
  [(rsaName, rsa), (Utf8.ofString "ssh-dss", dsa),
   (Utf8.ofString "ssh-ed25519", edwards),
   (Utf8.ofString "ecdsa-sha2-nistp256", onCurve .p256 "nistp256"),
   (Utf8.ofString "ecdsa-sha2-nistp384", onCurve .p384 "nistp384"),
   (Utf8.ofString "ecdsa-sha2-nistp521", onCurve .p521 "nistp521")]

/-- The name of an option of a certificate. A value that is not empty is one field. -/
def option : Reader Bytes := do
  let name ← field
  let value ← field
  if value.isEmpty then pure name
  else
    let _ ← whole field value
    pure name

def isAscending : List Bytes → Bool
  | a :: b :: rest => decide (a < b) && isAscending (b :: rest)
  | _ => true

/-- Options with distinct names in order. -/
def options : Reader Unit := do
  let names ← each option (← field)
  if isAscending names then pure () else throw .value

def roles : List Nat := [1, 2]

def rsaSignatures : List Bytes :=
  [rsaName, Utf8.ofString "rsa-sha2-256", Utf8.ofString "rsa-sha2-512"]

def signature (kind : Bytes) : Reader Unit := do
  let name ← field
  let _ ← field
  if name = kind ∨ (kind = rsaName ∧ rsaSignatures.contains name) then pure () else throw .value

/-- The fields around the key in a certificate; nobody's signature is verified. -/
def certified (read : Reader PublicKey) : Reader PublicKey := do
  let _ ← field
  let key ← read
  let _ ← octets 8
  let role ← unsigned 4
  let _ ← field
  let _ ← each field (← field)
  let _ ← octets 16
  options
  options
  let _ ← field
  let (kind, _) ← field.run (← field)
  whole (signature kind) (← field)
  if roles.contains role then pure key else throw .value

def isSpace (b : UInt8) : Bool := b == 0x20 || (9 ≤ b && b ≤ 13)

def certificateSuffix : Bytes := Utf8.ofString "-cert-v01@openssh.com"

def readerOf (name : Bytes) : Except Kind (Reader PublicKey) :=
  let isCertificate := certificateSuffix.isSuffixOf name
  let kind := if isCertificate then name.take (name.length - certificateSuffix.length) else name
  match kinds.lookup kind with
  | none => .error .algorithmUnsupported
  | some read => .ok (if isCertificate then certified read else read)

/-- The key on a line. What follows its first two words does not count. -/
def ofLine (line : Bytes) : Except Kind PublicKey := do
  let (name, rest) := line.span fun b => !isSpace b
  let (gap, rest) := rest.span fun b => b == 0x20 || b == 0x09
  let body := rest.takeWhile fun b => !isSpace b
  if name.isEmpty ∨ gap.isEmpty ∨ body.isEmpty then .error .value
  else
    let read ← readerOf name
    let body := body.map fun b => Char.ofNat b.toNat
    let bytes ← PublicKey.orMalformed (Base64.decodePassing? Base64.standard body)
    whole (do if (← field) = name then read else throw .value) bytes

end TokenGate.ShellKey
