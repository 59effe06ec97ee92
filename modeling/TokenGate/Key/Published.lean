import TokenGate.Key.Basic
import TokenGate.Base64
import TokenGate.Fault
import TokenGate.Text.Utf8

/-! Keys as they are published: objects whose members name the family of the key, its algorithm
and its parts. -/

set_option autoImplicit false

namespace TokenGate

structure PublishedKey where
  kid : Value
  family : Value
  algorithm : String
  use : Value
  key : Key
  deriving Repr

namespace PublishedKey

/-- Why an object is no key: it cannot be used, or it cannot even be judged. -/
inductive Refusal where
  | unusable
  | crash (kind : Kind)
  deriving Repr, DecidableEq

def octets? (v : Value) : Option Bytes :=
  match v with
  | .str (.proper s) => Base64.decodeLenient? (Utf8.ofString s).length s.toList
  | _ => none

def member (ms : Members) (name : Text) : Value := Value.ofOption (Members.get? ms name)

def octetsOf? (ms : Members) (name : Text) : Option Bytes := octets? (member ms name)

def numberOf? (ms : Members) (name : Text) : Option Nat := (octetsOf? ms name).map Bytes.toNat

def hasFamily (ms : Members) (family : String) : Bool := (member ms "kty").isText family

def rsaParts : List Text := ["p", "q", "dp", "dq", "qi"]

def rsaPrivate? (ms : Members) : Option Key := do
  let e ← numberOf? ms "e"
  let n ← numberOf? ms "n"
  let d ← numberOf? ms "d"
  if Members.has ms "oth" then none
  else if rsaParts.any (Members.has ms) then
    match ← rsaParts.mapM (numberOf? ms) with
    | [p, q, dp, dq, qi] => (Rsa.PrivateKey.ofParts? n e d p q dp dq qi).map .rsaPrivate
    | _ => none
  else (Rsa.PrivateKey.ofExponents? n e d).map .rsaPrivate

def rsa? (ms : Members) : Option Key :=
  if !hasFamily ms "RSA" || !Members.has ms "n" || !Members.has ms "e" then none
  else if Members.has ms "d" then rsaPrivate? ms
  else do
    (Rsa.PublicKey.ofParts? (← numberOf? ms "n") (← numberOf? ms "e")).map .rsaPublic

def curves : List (String × Curve) :=
  [("P-256", .p256), ("P-384", .p384), ("P-521", .p521), ("secp256k1", .koblitz256)]

def curve? (ms : Members) : Option Key := do
  if !hasFamily ms "EC" then none
  else
    let x ← octetsOf? ms "x"
    let y ← octetsOf? ms "y"
    let c ← (member ms "crv").string?.bind fun name => curves.lookup name
    let p : Curve.Point := ⟨x.toNat, y.toNat⟩
    if x.length ≠ c.size ∨ y.length ≠ c.size ∨ !c.contains p then none
    else if !Members.has ms "d" then some (.curvePublic c p)
    else
      let d ← octetsOf? ms "d"
      if d.length = c.size ∧ c.isPrivateOf d.toNat p then some (.curvePrivate c p d.toNat)
      else none

def edwardsCurves : List (String × Edwards) := [("Ed25519", .ed25519), ("Ed448", .ed448)]

def edwards? (ms : Members) : Option Key := do
  if !hasFamily ms "OKP" then none
  else
    let c ← (member ms "crv").string?.bind fun name => edwardsCurves.lookup name
    let x ← octetsOf? ms "x"
    if x.length ≠ c.size then none
    else if !Members.has ms "d" then some (.edwardsPublic c x)
    else
      let d ← octetsOf? ms "d"
      if d.length = c.size ∧ c.publicOf d = x then some (.edwardsPrivate c d) else none

def secret (ms : Members) : Except Refusal Key :=
  if !hasFamily ms "oct" then .error .unusable
  else match Members.get? ms "k" with
    | none => .error (.crash .key)
    | some v =>
      match octets? v with
      | some (b :: bytes) => .ok (.secret (b :: bytes))
      | _ => .error .unusable

def usable (key : Option Key) : Except Refusal Key :=
  match key with
  | some k => .ok k
  | none => .error .unusable

def keyOf (algorithm : Algorithm) (ms : Members) : Except Refusal Key :=
  match algorithm with
  | .unsigned => .error (.crash .notImplemented)
  | .mac _ => secret ms
  | .rsa _ => usable (rsa? ms)
  | .salted _ => usable (rsa? ms)
  | .curve _ _ => usable (curve? ms)
  | .edwards => usable (edwards? ms)

def curveAlgorithms : List (String × String) :=
  [("P-256", "ES256"), ("P-384", "ES384"), ("P-521", "ES512"), ("secp256k1", "ES256K")]

/-- The algorithm that a key is for if it names none. -/
def defaultAlgorithm? (ms : Members) : Option String :=
  let crv := member ms "crv"
  match member ms "kty" with
  | .str (.proper "RSA") => some "RS256"
  | .str (.proper "oct") => some "HS256"
  | .str (.proper "EC") =>
    if crv.isTruthy then crv.string?.bind fun name => curveAlgorithms.lookup name
    else some "ES256"
  | .str (.proper "OKP") => if crv.isText "Ed25519" then some "EdDSA" else none
  | _ => none

/-- The name of the algorithm that a key is for; a list or an object is not even looked up. -/
def algorithmName (ms : Members) : Except Refusal String :=
  match member ms "alg" with
  | .list [] | .object [] => fallback
  | .list _ | .object _ => .error (.crash .type)
  | .str (.proper "") => fallback
  | .str (.proper s) => .ok s
  | v => if v.isTruthy then .error .unusable else fallback
where
  fallback : Except Refusal String :=
    match defaultAlgorithm? ms with
    | some name => .ok name
    | none => .error .unusable

def ofMembers (ms : Members) : Except Refusal PublishedKey :=
  if !(member ms "kty").isTruthy then .error .unusable
  else match algorithmName ms with
    | .error refusal => .error refusal
    | .ok name =>
      match Algorithm.ofName? name with
      | none => .error .unusable
      | some algorithm =>
        (keyOf algorithm ms).map fun key =>
          ⟨member ms "kid", member ms "kty", name, member ms "use", key⟩

end PublishedKey

end TokenGate
