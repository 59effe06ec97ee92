import TokenGate.Key.Cache
import TokenGate.Rule.Chain
import TokenGate.Token.Decode

/-! Validation of tokens that other connectors send: the signature first, then the rules. A
signature that is wrong under the kept key may be right under a newer one, so the key is then
fetched again, once. -/

set_option autoImplicit false

namespace TokenGate

structure Validator where
  keys : KeySource
  chain : Chain
  /-- Names of the algorithms that are allowed. -/
  algorithms : List String

namespace Validator

def defaultAlgorithms : List String := ["RS256"]

inductive Attempt where
  | claims (ms : Members)
  | wrongSignature
  | failed (fault : Fault)

def under (v : Validator) (token : List Char) (key : PublishedKey) : Attempt :=
  match Token.decode v.algorithms key.key token with
  | .ok claims => .claims claims
  | .error .wrongSignature => .wrongSignature
  | .error .invalid => .failed .tokenInvalid
  | .error (.crash kind) => .failed (.crash kind)

def withoutKey (fault : Fault) : Fault := if fault.isKeyRetrieval then .noKey else fault

def attempt (v : Validator) (token : List Char) (kid : Option Text) (m : KeyMemory) :
    Attempt × KeyMemory :=
  match v.keys.lookup kid m with
  | (.ok key, m) => (v.under token key, m)
  | (.error fault, m) => (.failed (withoutKey fault), m)

/-- The attempt after which no other one follows. -/
def lastAttempt (v : Validator) (token : List Char) (kid : Option Text) (m : KeyMemory) :
    Except Fault Members × KeyMemory :=
  match v.attempt token kid m with
  | (.claims ms, m) => (.ok ms, m)
  | (.wrongSignature, m) => (.error .signatureInvalid, m)
  | (.failed fault, m) => (.error fault, m)

/-- The claims of a token whose signature is right. A token that asks for another key than the
configured one is refused before any key is looked up. -/
def decodeClaims (v : Validator) (token : List Char) (m : KeyMemory) :
    Except Fault Members × KeyMemory :=
  let kid := Token.keyName? token
  if v.keys.isForeign kid then (.error .foreignKey, m)
  else match v.attempt token kid m with
    | (.claims ms, m) => (.ok ms, m)
    | (.failed fault, m) => (.error fault, m)
    | (.wrongSignature, m) => v.lastAttempt token kid m.forget

def validateClaims (v : Validator) (now : Value) (claims : Value) : Except Fault (List Report) :=
  v.chain.validate now claims

def validate (v : Validator) (now : Value) (token : List Char) (m : KeyMemory) :
    Except Fault (List Report) × KeyMemory :=
  match v.decodeClaims token m with
  | (.ok claims, m) => (v.validateClaims now (.object claims), m)
  | (.error fault, m) => (.error fault, m)

end Validator

end TokenGate
