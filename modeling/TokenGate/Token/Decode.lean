import TokenGate.Token.Header
import TokenGate.Token.Signature

/-! Decoding a token under a key: the claims, once the algorithm is allowed and the signature
right. A wrong signature is told apart from all other reasons to refuse a token. -/

set_option autoImplicit false

namespace TokenGate.Token

inductive Refusal where
  /-- Malformed, or with an algorithm that is not allowed, or with claims of a wrong form. -/
  | invalid
  | wrongSignature
  /-- The key cannot be used with the algorithm. -/
  | crash (kind : Kind)
  deriving Repr, DecidableEq

def algorithm? (allowed : List String) (header : Members) : Option Algorithm :=
  match Members.get? header "alg" with
  | some (.str (.proper name)) =>
    if name ≠ "" ∧ allowed.contains name then Algorithm.ofName? name else none
  | _ => none

/-- Subject and name of a token are texts. -/
def hasTextClaims (claims : Members) : Bool :=
  ["sub", "jti"].all fun name =>
    match Members.get? claims name with
    | none => true
    | some v => v.text?.isSome

def claims? (payload : Bytes) : Option Members :=
  (jsonObject? payload).filter hasTextClaims

/-- Verify what was read, then take the claims. -/
def settle (allowed : List String) (key : Key) (t : Unverified) : Except Refusal Members :=
  match algorithm? allowed t.header with
  | none => .error .invalid
  | some algorithm =>
    match verify algorithm key (Utf8.encode t.signed) t.signature with
    | .error kind => .error (.crash kind)
    | .ok false => .error .wrongSignature
    | .ok true =>
      match claims? t.payload with
      | none => .error .invalid
      | some claims => .ok claims

def decode (allowed : List String) (key : Key) (token : List Char) : Except Refusal Members :=
  match unverified? token with
  | none => .error .invalid
  | some t => if isDetached t.header then .error .invalid else settle allowed key t

/-- A token is encoded before it is cut into its parts. -/
def decodeText (allowed : List String) (key : Key) : Text → Except Refusal Members
  | .proper token => decode allowed key token.toList
  | .halved _ => .error (.crash .unencodable)

end TokenGate.Token
