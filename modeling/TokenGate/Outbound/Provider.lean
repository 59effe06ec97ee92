import TokenGate.Attribute
import TokenGate.Key.Cache
import TokenGate.Outbound.Acquirer
import TokenGate.Rule.Basic
import TokenGate.Token.Decode

/-! Keeping the connector's own token. A kept token is handed out as long as it verifies and has
not expired; otherwise a new one is asked for. What goes wrong leaves the kept token alone. -/

set_option autoImplicit false

namespace TokenGate

namespace TokenCache

def isCurrent (now : Value) (claims : Members) : Except Fault Bool :=
  match Members.get? claims "exp" with
  | none => .ok false
  | some exp =>
    if !Rule.isNumber exp then .ok false
    else match now.lt? exp with
      | none => .error (.crash .type)
      | some b => .ok b

/-- Judge a token under a key. A token that does not verify makes the key suspect. -/
def judge (algorithms : List String) (now : Value) (token : Text) (key : PublishedKey)
    (m : KeyMemory) : Except Fault Bool × KeyMemory :=
  match Token.decodeText algorithms key.key token with
  | .ok claims => (isCurrent now claims, m)
  | .error (.crash kind) => (.error (.crash kind), m)
  | .error _ => (.ok false, m.forget)

def isFresh (keys : KeySource) (algorithms : List String) (now : Value) (token : Option Text)
    (m : KeyMemory) : Except Fault Bool × KeyMemory :=
  match token with
  | none => (.ok false, m)
  | some token =>
    match keys.lookup none m with
    | (.error fault, m) => (.error fault, m)
    | (.ok key, m) => judge algorithms now token key m

end TokenCache

inductive TokenSource where
  /-- What the askings will come to, one after another. -/
  | prepared (answers : Nat → Except Fault Text)
  /-- The authority, and what its answers will be. -/
  | authority (acquirer : Acquirer) (script : Script)

inductive TokenCall where
  | asked (endpoint : String)
  | sent (request : TokenRequest)
  deriving Repr

/-- A provider's memory: the keys it shares with others, its own token, and its calls, newest
first. -/
structure ProviderState where
  keys : KeyMemory
  token : Option Text
  calls : List TokenCall
  deriving Repr

namespace ProviderState

def empty : ProviderState := ⟨.empty, none, []⟩

end ProviderState

/-- Ask for a new token. A request that cannot be made is not sent. -/
def TokenSource.acquire (source : TokenSource) (now : Value) (endpoint : String)
    (s : ProviderState) : Except Fault Text × ProviderState :=
  match source with
  | .prepared answers => (answers s.calls.length, { s with calls := .asked endpoint :: s.calls })
  | .authority a script =>
    match a.request now endpoint with
    | .error fault => (.error fault, s)
    | .ok request =>
      (Acquirer.ofOutcome endpoint (script s.calls.length),
        { s with calls := .sent request :: s.calls })

structure Provider where
  keys : KeySource
  algorithms : List String
  source : TokenSource
  tokenUrl : String

namespace Provider

def renew (p : Provider) (now : Value) (s : ProviderState) : Except Fault Text × ProviderState :=
  match p.source.acquire now p.tokenUrl s with
  | (.ok token, s) => (.ok token, { s with token := some token })
  | (.error fault, s) => (.error fault, s)

/-- A token that has not expired: the kept one, or else a new one. -/
def provide (p : Provider) (now : Value) (s : ProviderState) :
    Except Fault Text × ProviderState :=
  match s.token, TokenCache.isFresh p.keys p.algorithms now s.token s.keys with
  | _, (.error fault, keys) => (.error fault, { s with keys := keys })
  | some token, (.ok true, keys) => (.ok token, { s with keys := keys })
  | _, (.ok _, keys) => p.renew now { s with keys := keys }

def currentToken (p : Provider) (now : Value) (s : ProviderState) :
    Except Fault AttributeToken × ProviderState :=
  let (outcome, s) := p.provide now s
  (outcome.map fun token => ⟨token, AttributeToken.defaultFormat⟩, s)

def invalidate (s : ProviderState) : ProviderState := { s with token := none }

end Provider

end TokenGate
