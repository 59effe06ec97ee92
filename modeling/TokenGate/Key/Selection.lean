import TokenGate.Key.Published

/-! Choosing the key out of a published set: the first object with the wanted name, or the first
object of all. An object that is no usable key is not passed over. -/

set_option autoImplicit false

namespace TokenGate.KeySet

/-- Whether an object has the wanted name; any name will do if none is wanted. -/
def matchesName (wanted : Option Text) (ms : Members) : Bool :=
  match wanted with
  | none => true
  | some kid => (PublishedKey.member ms "kid").isText kid

def parse (ms : Members) : Except Fault PublishedKey :=
  match PublishedKey.ofMembers ms with
  | .ok key => .ok key
  | .error .unusable => .error (.keyUnusable (PublishedKey.member ms "kid"))
  | .error (.crash kind) => .error (.crash kind)

/-- The first key of a list of entries; entries that are no objects do not count. -/
def choose (wanted : Option Text) : List Value → Except Fault PublishedKey
  | [] => .error (.keyNotFound wanted)
  | .object ms :: rest => if matchesName wanted ms then parse ms else choose wanted rest
  | _ :: rest => choose wanted rest

/-- The entries of a set. The characters of a text and the names in an object are entries too,
but no objects. -/
def entries (document : Members) : Except Fault (List Value) :=
  match Members.get? document "keys" with
  | some (.list vs) => .ok vs
  | some (.str _) => .ok []
  | some (.object _) => .ok []
  | some v => if v.isTruthy then .error (.crash .type) else .ok []
  | none => .ok []

def select (wanted : Option Text) (document : Members) : Except Fault PublishedKey := do
  choose wanted (← entries document)

end TokenGate.KeySet
