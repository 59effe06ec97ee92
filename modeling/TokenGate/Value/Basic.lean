import TokenGate.Number.Shortest
import TokenGate.Text.Quoted
import TokenGate.Text.Numeral

/-! Values of claims, settings and documents: what JSON can say, with integers of any size
apart from binary64 numbers. The members of an object have distinct names and keep the order
in which the names first came. -/

set_option autoImplicit false

namespace TokenGate

inductive Value where
  | null
  | bool (b : Bool)
  | int (n : Int)
  | float (x : Binary64)
  | str (s : Text)
  | list (items : List Value)
  | object (members : List (Text × Value))
  deriving Repr, Inhabited

abbrev Members := List (Text × Value)

namespace Members

def get? (members : Members) (name : Text) : Option Value := members.lookup name

def has (members : Members) (name : Text) : Bool := (get? members name).isSome

/-- Give a member its value; a name that is there already keeps its place. -/
def put (members : Members) (name : Text) (v : Value) : Members :=
  if has members name then members.map fun m => if m.1 = name then (name, v) else m
  else members ++ [(name, v)]

/-- Members from pairs, of which the last one with a name counts. -/
def ofPairs (pairs : List (Text × Value)) : Members :=
  pairs.foldl (fun ms p => put ms p.1 p.2) []

end Members

namespace Value

def ofOption : Option Value → Value
  | some v => v
  | none => .null

def ofText? : Option Text → Value
  | some s => .str s
  | none => .null

def text? : Value → Option Text
  | .str s => some s
  | _ => none

/-- A text in which no half of a pair stands alone. -/
def string? (v : Value) : Option String := v.text?.bind Text.proper?

def isNull : Value → Bool
  | .null => true
  | _ => false

def isTruthy : Value → Bool
  | .null => false
  | .bool b => b
  | .int n => n != 0
  | .float x => !x.isZero
  | .str s => s != .proper ""
  | .list items => !items.isEmpty
  | .object ms => !ms.isEmpty

def typeName : Value → String
  | .null => "NoneType"
  | .bool _ => "bool"
  | .int _ => "int"
  | .float _ => "float"
  | .str _ => "str"
  | .list _ => "list"
  | .object _ => "dict"

def isText (s : Text) : Value → Bool
  | .str t => t == s
  | _ => false

@[simp] theorem ofOption_eq_str_iff {o : Option Value} {s : Text} :
    ofOption o = .str s ↔ o = some (.str s) := by
  cases o <;> simp [ofOption]

@[simp] theorem isText_iff {v : Value} {s : Text} : v.isText s = true ↔ v = .str s := by
  cases v <;> simp [isText]

mutual

def display : Value → List Char
  | .null => "None".toList
  | .bool true => "True".toList
  | .bool false => "False".toList
  | .int n => Text.intDigits n
  | .float x => x.toText.toList
  | .str s => Text.quoted s.points
  | .list items => '[' :: displayItems items ++ [']']
  | .object ms => '\x7b' :: displayMembers ms ++ ['\x7d']

def displayItems : List Value → List Char
  | [] => []
  | [v] => display v
  | v :: rest => display v ++ ", ".toList ++ displayItems rest

def displayMembers : List (Text × Value) → List Char
  | [] => []
  | [(name, v)] => Text.quoted name.points ++ ": ".toList ++ display v
  | (name, v) :: rest =>
    Text.quoted name.points ++ ": ".toList ++ display v ++ ", ".toList ++ displayMembers rest

end

def shown (v : Value) : String := String.ofList v.display

mutual

/-- Whether no text in a value has half of a pair standing alone. -/
def isProper : Value → Bool
  | .str s => s.isProper
  | .list items => itemsProper items
  | .object ms => membersProper ms
  | _ => true

def itemsProper : List Value → Bool
  | [] => true
  | v :: rest => isProper v && itemsProper rest

def membersProper : List (Text × Value) → Bool
  | [] => true
  | (name, v) :: rest => name.isProper && isProper v && membersProper rest

end

end Value

end TokenGate
