import TokenGate.Service.App

/-! How the parts of a service are put together. A part that looks up keys refers to a cache, and
other parts may refer to the same one. Parts are built from settings along two ways: a provider
brings a cache of its own, and a validator takes the provider's one or, without a provider, brings
its own. -/

set_option autoImplicit false

namespace TokenGate

structure KeyCache where
  source : KeySource
  memory : KeyMemory

def KeyCache.fresh (url : String) (keyId : Option Text) (timeout : Int) (script : Script) :
    KeyCache :=
  ⟨⟨url, keyId, timeout, script⟩, .empty⟩

structure Get where
  url : String
  timeout : Int
  deriving Repr, DecidableEq

/-- The fetches that lie between two states of a memory. -/
def KeySource.gets (s : KeySource) (before after : KeyMemory) : List Get :=
  List.replicate (after.fetched - before.fetched) ⟨s.url, s.timeout⟩

structure ValidatorPart (count : Nat) where
  cache : Fin count
  chain : Chain
  algorithms : List String

structure ProviderPart (count : Nat) where
  cache : Fin count
  algorithms : List String
  source : TokenSource
  tokenUrl : String

namespace ValidatorPart

variable {count : Nat}

def lift (v : ValidatorPart count) : ValidatorPart (count + 1) :=
  { v with cache := v.cache.castSucc }

def within (v : ValidatorPart count) (caches : Vector KeyCache count) : Validator :=
  ⟨caches[v.cache].source, v.chain, v.algorithms⟩

end ValidatorPart

namespace ProviderPart

variable {count : Nat}

def lift (p : ProviderPart count) : ProviderPart (count + 1) := { p with cache := p.cache.castSucc }

def within (p : ProviderPart count) (caches : Vector KeyCache count) : Provider :=
  ⟨caches[p.cache].source, p.algorithms, p.source, p.tokenUrl⟩

end ProviderPart

structure Assembly where
  count : Nat
  caches : Vector KeyCache count
  validator : Option (ValidatorPart count)
  provider : Option (ProviderPart count)

namespace Assembly

def bare : Assembly := ⟨0, #v[], none, none⟩

def addProvider (a : Assembly) (c : Config) (identity : Identity) (script posts : Script) :
    Assembly where
  count := a.count + 1
  caches := a.caches.push (.fresh c.keyUrl (c.keyId.map .proper) c.timeout script)
  validator := a.validator.map .lift
  provider := some ⟨Fin.last a.count, Validator.defaultAlgorithms,
    .authority (c.acquirer identity) posts, c.tokenUrl⟩

/-- A validator that settings ask for, with a cache that is given or else with one of its own. -/
def addValidator (a : Assembly) (c : Config) (script : Script) :
    Option (Fin a.count) → Assembly
  | some cache => { a with validator := some ⟨cache, c.rules, Validator.defaultAlgorithms⟩ }
  | none => {
      count := a.count + 1
      caches := a.caches.push (.fresh c.keyUrl (c.keyId.map .proper) c.timeout script)
      validator := some ⟨Fin.last a.count, c.rules, Validator.defaultAlgorithms⟩
      provider := a.provider.map .lift }

/-- Without a provider, one is built if there is an identity for it. -/
def equip (a : Assembly) (c : Config) (file : String → Except Kind String)
    (script posts : Script) : Except Fault Assembly :=
  if a.provider.isNone && c.hasIdentity then do
    let identity ← c.loadIdentity file
    .ok (a.addProvider c identity script posts)
  else .ok a

def start (a : Assembly) (env : Environment) (file : String → Except Kind String)
    (script posts : Script) : Except Fault Assembly :=
  match a.validator with
  | some _ => .ok a
  | none => do
    let config ← Config.ofEnvironment env
    let equipped ← a.equip config file script posts
    .ok (equipped.addValidator config script (equipped.provider.map ProviderPart.cache))

def given (env : Environment) (script : Script) : Except Fault Assembly :=
  (Config.ofEnvironment env).map fun config => bare.addValidator config script none

def validator? (a : Assembly) : Option Validator := a.validator.map fun v => v.within a.caches

def provider? (a : Assembly) : Option Provider := a.provider.map fun p => p.within a.caches

def app (a : Assembly) : App := ⟨a.validator?, a.provider.isSome⟩

def memory (a : Assembly) : KeyMemory :=
  match a.validator with
  | some v => a.caches[v.cache].memory
  | none => .empty

/-- Leave another memory in the cache of the validator. -/
def withMemory (a : Assembly) (m : KeyMemory) : Assembly :=
  match a.validator with
  | some v => { a with caches := a.caches.set v.cache { a.caches[v.cache] with memory := m } }
  | none => a

/-- The fetches that a request made if it leaves this memory. -/
def gets (a : Assembly) (m : KeyMemory) : List Get :=
  match a.validator? with
  | some v => v.keys.gets a.memory m
  | none => []

def respond (a : Assembly) (now : Value) (r : Request) : (Reply × List Get) × Assembly :=
  let (reply, m) := a.app.handle now r a.memory
  ((reply, a.gets m), a.withMemory m)

def run (a : Assembly) : List (Value × Request) → List (Reply × List Get)
  | [] => []
  | (now, r) :: rest => (a.respond now r).1 :: (a.respond now r).2.run rest

def after (a : Assembly) : List (Value × Request) → Assembly
  | [] => a
  | (now, r) :: rest => (a.respond now r).2.after rest

end Assembly

end TokenGate
