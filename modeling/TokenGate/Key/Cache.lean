import TokenGate.Key.Selection
import TokenGate.Transport

/-! The cache of the one key that tokens are verified with. A key is fetched when it is first
needed and kept until it is dropped; a fetch that gives no key leaves nothing behind. -/

set_option autoImplicit false

namespace TokenGate

structure KeySource where
  url : String
  /-- Name of the key to take; none means the first one published. -/
  keyId : Option Text
  timeout : Int
  script : Script

/-- What a cache holds, and how many fetches were made for it. -/
structure KeyMemory where
  entry : Option PublishedKey
  fetched : Nat
  deriving Repr

namespace KeyMemory

def empty : KeyMemory := ⟨none, 0⟩

def forget (m : KeyMemory) : KeyMemory := { m with entry := none }

end KeyMemory

namespace KeySource

def ofResponse (s : KeySource) (r : Response) : Except Fault PublishedKey :=
  if r.isError then .error (.keySetUnreachable s.url)
  else match r.json with
    | .error (.content .malformed) => .error (.keySetUnreachable s.url)
    | .error (.content .tooDeep) => .error (.crash .recursion)
    | .error (.characters .broken) => .error (.crash .runtime)
    | .error _ => .error .keySetUnreadable
    | .ok (.object document) => KeySet.select s.keyId document
    | .ok _ => .error .keySetShape

def ofOutcome (s : KeySource) : Outcome → Except Fault PublishedKey
  | .failed => .error (.keySetUnreachable s.url)
  | .broken kind => .error (.crash kind)
  | .answered r => s.ofResponse r

/-- Fetch the key set once and keep its key, if it has one. -/
def fetch (s : KeySource) (m : KeyMemory) : Except Fault PublishedKey × KeyMemory :=
  match s.ofOutcome (s.script m.fetched) with
  | .ok key => (.ok key, ⟨some key, m.fetched + 1⟩)
  | .error fault => (.error fault, { m with fetched := m.fetched + 1 })

def current (s : KeySource) (m : KeyMemory) : Except Fault PublishedKey × KeyMemory :=
  match m.entry with
  | some key => (.ok key, m)
  | none => s.fetch m

/-- Whether a key is asked for by a name that is not the configured one. -/
def isForeign (s : KeySource) (asked : Option Text) : Bool :=
  match asked, s.keyId with
  | some a, some k => a != k
  | _, _ => false

def named (asked : Option Text) (key : PublishedKey) : Except Fault PublishedKey :=
  match asked with
  | none => .ok key
  | some kid => if key.kid.isText kid then .ok key else .error (.keyNotFound (some kid))

/-- The key to verify with. The name asked for only tells what is expected; it never selects. -/
def lookup (s : KeySource) (asked : Option Text) (m : KeyMemory) :
    Except Fault PublishedKey × KeyMemory :=
  if s.isForeign asked then (.error (.keyNotFound asked), m)
  else match s.current m with
    | (.ok key, m) => (named asked key, m)
    | (.error fault, m) => (.error fault, m)

end KeySource

end TokenGate
