import TokenGate.Key.Basic
import TokenGate.Token.Secret

/-! Signatures of tokens under keys. Not every key goes with every algorithm; which fault comes
of it depends on how far apart the two are. -/

set_option autoImplicit false

namespace TokenGate.Token

def secretOf (key : Key) : Except Kind Bytes :=
  match key with
  | .secret bytes => Secret.plain bytes
  | _ => .error .type

/-- A public RSA key. A private one cannot verify. -/
def rsaOf (key : Key) : Except Kind Rsa.PublicKey :=
  match key with
  | .rsaPublic k => .ok k
  | .rsaPrivate _ => .error .capability
  | .secret bytes =>
    match Secret.rsa bytes with
    | .ok (.forOthers (.rsa k)) => .ok k
    | .ok (.own (.rsa _)) => .error .capability
    | .ok _ => .error .invalidKey
    | .error kind => .error kind
  | _ => .error .type

def onCurve (c d : Curve) (p : Curve.Point) : Except Kind Curve.Point :=
  if c = d then .ok p else .error .invalidKey

def pointOf (c : Curve) (key : Key) : Except Kind Curve.Point :=
  match key with
  | .curvePublic d p => onCurve c d p
  | .curvePrivate d p _ => onCurve c d p
  | .secret bytes =>
    match Secret.curve bytes with
    | .ok (.forOthers (.curve d p)) => onCurve c d p
    | .ok (.own (.curve d n)) =>
      match d.times n d.base with
      | some p => onCurve c d p
      | none => .error .invalidKey
    | .ok _ => .error .invalidKey
    | .error kind => .error kind
  | _ => .error .type

def edwardsOf (key : Key) : Except Kind (Edwards × Bytes) :=
  match key with
  | .edwardsPublic c point => .ok (c, point)
  | .edwardsPrivate c seed => .ok (c, c.publicOf seed)
  | .secret bytes =>
    match Secret.edwards bytes with
    | .ok (.forOthers (.edwards c point)) => .ok (c, point)
    | .ok (.own (.edwards c seed)) => .ok (c, c.publicOf seed)
    | .ok _ => .error .invalidKey
    | .error kind => .error kind
  | _ => .error .invalidKey

/-- Whether a signature is right for a message, or the kind of fault if the key cannot be used. -/
def verify (algorithm : Algorithm) (key : Key) (message signature : Bytes) : Except Kind Bool :=
  match algorithm with
  | .unsigned => .error .invalidKey
  | .mac h => (secretOf key).map fun secret => h.mac secret message == signature
  | .rsa h => (rsaOf key).map fun k => Rsa.verify h k message signature
  | .salted h => (rsaOf key).map fun k => Rsa.verifySalted h k message signature
  | .curve c h => (pointOf c key).map fun p => c.verify h p message signature
  | .edwards => (edwardsOf key).map fun (c, point) => c.verify point message signature

end TokenGate.Token
