import TokenGate.Config
import TokenGate.Inbound.Validator
import TokenGate.Outbound.Provider

/-! One connector at work: a validator for tokens of others, a provider of its own token, and a
spare token on the side. All of them share one memory of the key. -/

set_option autoImplicit false

namespace TokenGate

structure Connector where
  validator : Validator
  provider : Provider

namespace Connector

structure State where
  provider : ProviderState
  /-- A token that is kept apart from the provider's. -/
  spare : Option Text
  now : Value
  deriving Repr

def start (now : Value) : State := ⟨.empty, none, now⟩

inductive Operation where
  | setClock (now : Value)
  | findKey (kid : Option Text)
  | dropKey
  | decode (token : String)
  | validate (token : String)
  | validateClaims (claims : Value)
  | provide
  | currentToken
  | keptToken
  | dropToken
  | acquire (endpoint : String)
  | setSpare (token : Option Text)
  | spareToken
  | isSpareFresh
  deriving Repr

inductive Result where
  | done
  | key (k : PublishedKey)
  | claims (ms : Members)
  | reports (rs : List Report)
  | token (t : Option Text)
  | header (t : AttributeToken)
  | truth (b : Bool)
  deriving Repr

def withKeys (s : State) (m : KeyMemory) : State :=
  { s with provider := { s.provider with keys := m } }

def onKeys {α : Type} (wrap : α → Result) (s : State) (r : Except Fault α × KeyMemory) :
    Except Fault Result × State :=
  (r.1.map wrap, withKeys s r.2)

def onProvider {α : Type} (wrap : α → Result) (s : State)
    (r : Except Fault α × ProviderState) :
    Except Fault Result × State :=
  (r.1.map wrap, { s with provider := r.2 })

def step (c : Connector) (s : State) : Operation → Except Fault Result × State
  | .setClock now => (.ok .done, { s with now := now })
  | .findKey kid => onKeys .key s (c.validator.keys.lookup kid s.provider.keys)
  | .dropKey => (.ok .done, withKeys s s.provider.keys.forget)
  | .decode token => onKeys .claims s (c.validator.decodeClaims token.toList s.provider.keys)
  | .validate token =>
    onKeys .reports s (c.validator.validate s.now token.toList s.provider.keys)
  | .validateClaims claims => ((c.validator.validateClaims s.now claims).map .reports, s)
  | .provide => onProvider (fun t => .token (some t)) s (c.provider.provide s.now s.provider)
  | .currentToken => onProvider .header s (c.provider.currentToken s.now s.provider)
  | .keptToken => (.ok (.token s.provider.token), s)
  | .dropToken => (.ok .done, { s with provider := Provider.invalidate s.provider })
  | .acquire endpoint =>
    onProvider (fun t => .token (some t)) s (c.provider.source.acquire s.now endpoint s.provider)
  | .setSpare token => (.ok .done, { s with spare := token })
  | .spareToken => (.ok (.token s.spare), s)
  | .isSpareFresh =>
    onKeys .truth s
      (TokenCache.isFresh c.provider.keys c.provider.algorithms s.now s.spare s.provider.keys)

/-- Do operations one after another; a fault ends only the operation that it arises in. -/
def run (c : Connector) : State → List Operation → List (Except Fault Result) × State
  | s, [] => ([], s)
  | s, op :: rest =>
    let (outcome, s) := c.step s op
    let (outcomes, s) := c.run s rest
    (outcome :: outcomes, s)

end Connector

namespace Config

def keySource (c : Config) (script : Script) : KeySource :=
  ⟨c.keyUrl, c.keyId.map .proper, c.timeout, script⟩

def validator (c : Config) (script : Script) : Validator :=
  ⟨c.keySource script, c.rules, Validator.defaultAlgorithms⟩

/-- The acquirer of a connector with this identity. -/
def acquirer (c : Config) (identity : Identity) : Acquirer :=
  ⟨identity, c.timeout, c.assertionLifetime⟩

/-- Load the identity that the settings name, from what its paths lead to. -/
def loadIdentity (c : Config) (file : String → Except Kind String) : Except Fault Identity :=
  match c.hasIdentity, c.certPath, c.keyPath with
  | true, some cert, some key => Identity.ofFiles (file cert) (file key) c.keyPassword
  | _, _, _ => .error .identityUnset

end Config

end TokenGate
