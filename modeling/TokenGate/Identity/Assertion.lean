import TokenGate.Identity.Basic
import TokenGate.Token.Compact
import TokenGate.Json.Writer
import TokenGate.Value.Order

/-! The assertion by which a connector asks for its token: a short token of its own, signed with
the private key of its identity. -/

set_option autoImplicit false

namespace TokenGate.Identity

def audience : String := "idsc:IDS_CONNECTORS_ALL"

def context : String := "https://w3id.org/idsa/contexts/context.jsonld"

def requestType : String := "ids:DatRequestToken"

/-- A clock reading in whole seconds, without its fraction. -/
def wholeSeconds : Value → Except Fault Int
  | .int n => .ok n
  | .bool b => .ok (if b then 1 else 0)
  | .float x =>
    match x.truncate?, x with
    | some n, _ => .ok n
    | none, .infinite _ => .error (.crash .overflow)
    | none, _ => .error (.crash .value)
  | .str s =>
    match Text.readNumeral s with
    | .ok n => .ok n
    | .error cause => .error (.numeral cause)
  | _ => .error (.crash .type)

def assertionHeader : Value := .object [("alg", .str "RS256"), ("typ", .str "JWT")]

def assertionClaims (name : String) (now lifetime : Int) : Value :=
  .object
    [("@context", .str context), ("@type", .str requestType), ("iss", .str name),
     ("sub", .str name), ("aud", .str audience), ("iat", .int now), ("nbf", .int now),
     ("exp", .int (now + lifetime))]

def signAssertion (key : PrivateKey) (claims : Value) : Except Fault (List Char) :=
  let input := Compact.signingInput (Json.write assertionHeader) (Json.write claims)
  match key with
  | .rsa k =>
    match Rsa.sign? .sha256 k (Utf8.encode input) with
    | some signature => .ok (Compact.withSignature input signature)
    | none => .error (.crash .value)
  | _ => .error (.crash .type)

def assertion (i : Identity) (now : Value) (lifetime : Int) : Except Fault String := do
  let name ← i.connectorName
  let start ← wholeSeconds now
  if !Text.writable start || !Text.writable (start + lifetime) then .error .integerUnwritable
  else (signAssertion i.key (assertionClaims name start lifetime)).map String.ofList

end TokenGate.Identity
