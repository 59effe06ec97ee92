import TokenGate.Asn1.Pem
import TokenGate.Crypto.Edwards
import TokenGate.Crypto.Rsa
import TokenGate.Stored.Group

/-! Public keys as they are stored, in elements and in sections of a text. -/

set_option autoImplicit false

namespace TokenGate

inductive PublicKey where
  | rsa (k : Rsa.PublicKey)
  | curve (c : Curve) (p : Curve.Point)
  | edwards (c : Edwards) (point : Bytes)
  /-- A key of another kind, under which no token is verified. -/
  | other
  deriving Repr, DecidableEq

def AlgorithmIdentifier.curveChoice (a : AlgorithmIdentifier) : Except Kind CurveChoice :=
  match a.parameters.bind curveChoice? with
  | some choice => .ok choice
  | none => .error .value

namespace PublicKey

open Der

def orMalformed {α : Type} (a : Option α) : Except Kind α :=
  match a with
  | some a => .ok a
  | none => .error .value

def rsaOfDer? (bytes : Bytes) : Option Rsa.PublicKey :=
  (single? bytes).bind (Element.fields? do
    let n ← Fields.next Element.nat?
    let e ← Fields.next Element.nat?
    pure ⟨n, e⟩)

def named? (bytes : Bytes) : Option (AlgorithmIdentifier × Bytes) :=
  (single? bytes).bind (Element.fields? do
    let algorithm ← Fields.next AlgorithmIdentifier.ofElement?
    let key ← Fields.next Element.bits?
    pure (algorithm, key))

/-- Keys that are plain octets: their sizes, and the curves of those that verify. -/
def plainKinds : List (Bytes × Nat × Option Edwards) :=
  [(AlgorithmIdentifier.ed25519, 32, some .ed25519), (AlgorithmIdentifier.ed448, 57, some .ed448),
   (AlgorithmIdentifier.x25519, 32, none), (AlgorithmIdentifier.x448, 56, none)]

/-- Names of keys that are one number under parameters. -/
def numberKinds : List Bytes :=
  [AlgorithmIdentifier.dsa, AlgorithmIdentifier.diffieHellman, AlgorithmIdentifier.keyAgreement]

def isRsa (name : Bytes) : Bool :=
  name == AlgorithmIdentifier.rsa || name == AlgorithmIdentifier.saltedRsa

def plain (c : Option Edwards) (bytes : Bytes) : PublicKey :=
  match c with
  | some c => .edwards c bytes
  | none => .other

def ofNamed (bytes : Bytes) : Except Kind PublicKey := do
  let (algorithm, key) ← orMalformed (named? bytes)
  if isRsa algorithm.name then orMalformed ((rsaOfDer? key).map .rsa)
  else if algorithm.name = AlgorithmIdentifier.curve then do
    let c ← Curve.ofChoice (← algorithm.curveChoice)
    orMalformed ((c.point? key).map (.curve c))
  else if numberKinds.contains algorithm.name then
    orMalformed (((single? key).bind Element.nat?).map fun _ => .other)
  else match plainKinds.lookup algorithm.name with
    | some (size, c) => if key.length = size then .ok (plain c key) else .error .value
    | none => .error .algorithmUnsupported

/-- A key under its name, or a bare RSA key. -/
def ofDer (bytes : Bytes) : Except Kind PublicKey :=
  match ofNamed bytes, rsaOfDer? bytes with
  | .ok key, _ => .ok key
  | .error _, some k => .ok (.rsa k)
  | .error kind, none => .error kind

def rsaOfSection (bytes : Bytes) : Except Kind PublicKey :=
  match rsaOfDer? bytes, ofNamed bytes with
  | some k, _ => .ok (.rsa k)
  | none, .ok (.rsa k) => .ok (.rsa k)
  | none, _ => .error .value

def ofText (cs : List Char) : Except Kind PublicKey := do
  let s ← orMalformed (Pem.first? cs)
  if s.label = "RSA PUBLIC KEY".toList then rsaOfSection s.content
  else if s.label = "PUBLIC KEY".toList then ofNamed s.content
  else .error .value

end PublicKey

end TokenGate
