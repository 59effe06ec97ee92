import TokenGate.Value.Basic

/-! Equality and order of values. Truth values, integers and binary64 numbers lie on one line
and are compared there exactly; texts go by code points, lists by the first place where they
differ. Nothing else has an order. -/

set_option autoImplicit false

namespace TokenGate.Value

/-- Place of a number on the line; the inner none is not a number. -/
def measure? : Value → Option (Option Extended)
  | .bool b => some (some (.number (if b then 1 else 0)))
  | .int n => some (some (.number n))
  | .float x => some x.extended?
  | _ => none

/-- Whether one reading lies before another; not a number lies nowhere. -/
def before : Option Extended → Option Extended → Bool
  | some a, some b => a.lt b
  | _, _ => false

/-- Whether two numbers are at one place; not a number is the same as itself here. -/
def sameNumber (a b : Value) : Bool :=
  match a.measure?, b.measure? with
  | some x, some y => x == y
  | _, _ => false

mutual

/-- Whether two places of two lists hold the same. -/
def same : Value → Value → Bool
  | .null, .null => true
  | .str a, .str b => a == b
  | .list a, .list b => sameItems a b
  | .object a, .object b => a.length == b.length && sameMembers a b
  | .bool a, b => sameNumber (.bool a) b
  | .int a, b => sameNumber (.int a) b
  | .float a, b => sameNumber (.float a) b
  | _, _ => false

def sameItems : List Value → List Value → Bool
  | [], [] => true
  | a :: as, b :: bs => same a b && sameItems as bs
  | _, _ => false

def sameMembers : List (Text × Value) → List (Text × Value) → Bool
  | [], _ => true
  | (name, a) :: rest, bs =>
    (match bs.lookup name with
      | some b => same a b
      | none => false) && sameMembers rest bs

end

mutual

/-- Whether a value lies before another; none if they have no order. -/
def lt? : Value → Value → Option Bool
  | .str a, .str b => some (a.isBefore b)
  | .list a, .list b => ltItems? a b
  | a, b =>
    match a.measure?, b.measure? with
    | some x, some y => some (before x y)
    | _, _ => none

def ltItems? : List Value → List Value → Option Bool
  | [], [] => some false
  | [], _ :: _ => some true
  | _ :: _, [] => some false
  | a :: as, b :: bs => if same a b then ltItems? as bs else lt? a b

end

end TokenGate.Value
