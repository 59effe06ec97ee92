import TokenGate.Stored.Password
import TokenGate.Stored.PublicKey

/-! Private keys as they are stored. A key may be wrapped with the name of its algorithm, and the
wrapping or the whole section may be encrypted under a password. -/

set_option autoImplicit false

namespace TokenGate

inductive PrivateKey where
  | rsa (k : Rsa.PrivateKey)
  | curve (c : Curve) (d : Nat)
  | edwards (c : Edwards) (seed : Bytes)
  /-- A key of another kind, which signs no assertions and verifies no tokens. -/
  | other
  deriving Repr, DecidableEq

namespace PrivateKey

open Der PublicKey

/-- The parts of an RSA key, which need not fit together yet. -/
def rsaOfDer? (bytes : Bytes) : Option PrivateKey :=
  match (single? bytes).bind (Element.each? Element.nat?) with
  | some [0, n, e, d, p, q, dp, dq, qi] => some (.rsa ⟨⟨n, e⟩, d, p, q, dp, dq, qi⟩)
  | _ => none

def dsaOfDer? (bytes : Bytes) : Option PrivateKey :=
  match (single? bytes).bind (Element.each? Element.nat?) with
  | some [0, _, _, _, _, _] => some .other
  | _ => none

structure CurveFile where
  version : Nat
  octets : Bytes
  choice : Option CurveChoice
  point : Option Bytes
  deriving Repr, DecidableEq

def curveFile? (bytes : Bytes) : Option CurveFile :=
  (single? bytes).bind (Element.fields? do
    let version ← Fields.next (Element.word? 8)
    let octets ← Fields.next Element.octets?
    let choice ← Fields.wrapped 0 AlgorithmIdentifier.curveChoice?
    let point ← Fields.wrapped 1 Element.bits?
    pure ⟨version, octets, choice, point⟩)

/-- The curve that is told outside, inside or both, in the same way. -/
def chosen? (outer inner : Option CurveChoice) : Option CurveChoice :=
  match outer, inner with
  | none, inner => inner
  | some a, none => some a
  | some a, some b => if a = b then some a else none

/-- A key on a curve: its number has as many octets as the order, and any public point is that of
the number. -/
def curveOfDer (outer : Option CurveChoice) (bytes : Bytes) : Except Kind PrivateKey := do
  let file ← orMalformed (curveFile? bytes)
  let choice ← orMalformed (if file.version = 1 then chosen? outer file.choice else none)
  let c ← Curve.ofChoice choice
  let d := file.octets.toNat
  let own ← orMalformed (Curve.times c d c.base)
  let isOwn (bytes : Bytes) : Bool := c.point? bytes == some own
  if file.octets.length = c.privateSize ∧ 0 < d ∧ d < c.parameters.order ∧ file.point.all isOwn then
    .ok (.curve c d)
  else .error .value

def attribute? (e : Element) : Option Unit := e.fields? do
  let _ ← Fields.next Element.identifier?
  let _ ← Fields.next (Element.members? setTag)

def attributes? (e : Element) : Option Unit := do
  let _ ← (← e.members? (wrapperTag 0)).mapM attribute?

def wrapped? (bytes : Bytes) : Option (AlgorithmIdentifier × Bytes) :=
  (single? bytes).bind (Element.fields? do
    let _ ← Fields.next fun e => (e.word? 8).filter (· == 0)
    let algorithm ← Fields.next AlgorithmIdentifier.ofElement?
    let key ← Fields.next Element.octets?
    let _ ← Fields.perhaps (wrapperTag 0) attributes?
    pure (algorithm, key))

def plain (c : Option Edwards) (bytes : Bytes) : PrivateKey :=
  match c with
  | some c => .edwards c bytes
  | none => .other

def ofWrapped (bytes : Bytes) : Except Kind PrivateKey := do
  let (algorithm, key) ← orMalformed (wrapped? bytes)
  if isRsa algorithm.name then orMalformed (rsaOfDer? key)
  else if algorithm.name = AlgorithmIdentifier.curve then
    curveOfDer (some (← algorithm.curveChoice)) key
  else if numberKinds.contains algorithm.name then
    orMalformed (((single? key).bind Element.nat?).map fun _ => .other)
  else match plainKinds.lookup algorithm.name with
    | some (size, c) => do
      let octets ← orMalformed ((single? key).bind Element.octets?)
      if octets.length = size then .ok (plain c octets) else .error .internal
    | none => .error .algorithmUnsupported

/-- A key under an encrypted name. An empty password is none. -/
def ofSealed (bytes : Bytes) (password : Option Bytes) : Except Kind PrivateKey := do
  let s ← orMalformed (Password.sealed? bytes)
  match password with
  | none => .error .type
  | some password => ofWrapped (← Password.unlock s password)

def checked : PrivateKey → Except Kind PrivateKey
  | .rsa k => if k.isConsistent then .ok (.rsa k) else .error .value
  | key => .ok key

def sealedLabel : String := "ENCRYPTED PRIVATE KEY"

def readers : List (String × (Bytes → Except Kind PrivateKey)) :=
  [("PRIVATE KEY", ofWrapped), ("RSA PRIVATE KEY", fun bytes => orMalformed (rsaOfDer? bytes)),
   ("EC PRIVATE KEY", curveOfDer none),
   ("DSA PRIVATE KEY", fun bytes => orMalformed (dsaOfDer? bytes))]

def labels : List String := sealedLabel :: readers.map (·.1)

/-- The key in a section. A password is not given in vain. -/
def ofSection (s : Pem.Section) (password : Option Bytes) : Except Kind PrivateKey := do
  let (content, encrypted) ← Password.sectionContent s password
  match readers.lookup (String.ofList s.label) with
  | none => (← ofSealed content password).checked
  | some reader =>
    let key ← reader content
    if password.isSome && !encrypted then .error .type else key.checked

/-- The first private key of a text. An empty password counts as none. -/
def ofText (cs : List Char) (password : Option Bytes) : Except Kind PrivateKey := do
  ofSection (← orMalformed (Pem.find? labels cs)) (password.filter fun p => !p.isEmpty)

def ofDer (bytes : Bytes) : Except Kind PrivateKey :=
  match ofWrapped bytes, curveOfDer none bytes, rsaOfDer? bytes, dsaOfDer? bytes with
  | .ok key, _, _, _ => key.checked
  | _, .ok key, _, _ => key.checked
  | _, _, some key, _ => key.checked
  | _, _, _, some key => key.checked
  | .error kind, _, _, _ => if (Password.sealed? bytes).isSome then .error .type else .error kind

end PrivateKey

end TokenGate
