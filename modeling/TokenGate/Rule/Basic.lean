import TokenGate.Fault
import TokenGate.Value.Order

/-! Rules on claims. A rule sees the clock and the claims and gives a verdict; a rule that cannot
judge at all ends in a fault, which is no verdict. -/

set_option autoImplicit false

namespace TokenGate

/-- A judgement of one rule; a failure may carry a reason, a success data. -/
structure Verdict where
  passed : Bool
  reason : Option Text
  data : Value
  deriving Repr

namespace Verdict

def success (data : Value) : Verdict := ⟨true, none, data⟩

def failure (reason : Text) : Verdict := ⟨false, some reason, .null⟩

end Verdict

/-- What a rule hands back. Only custom rules hand back something that is no verdict, of which no
more is looked at than its type. -/
inductive Answer where
  | verdict (v : Verdict)
  | other (typeName : String)
  deriving Repr

/-- A rule is an object of some class or a plain function. -/
inductive Rule.Form where
  | object (className : String)
  | function (name : String)
  deriving Repr, DecidableEq

structure Rule where
  form : Rule.Form
  /-- Judge claims at a clock reading. -/
  check : Value → Value → Except Fault Answer

namespace Rule

def functionSort : String := "function"

def sort (rule : Rule) : String :=
  match rule.form with
  | .object className => className
  | .function _ => functionSort

/-- The name in reports: that of the class of an object, a function's own one. -/
def name (rule : Rule) : String :=
  match rule.form with
  | .object className => className
  | .function name => name

@[simp] theorem name_object (className : String) (check : Value → Value → Except Fault Answer) :
    (Rule.mk (.object className) check).name = className := rfl

@[simp] theorem name_function (name : String) (check : Value → Value → Except Fault Answer) :
    (Rule.mk (.function name) check).name = name := rfl

def claim (claims : Value) (name : Text) : Except Fault Value :=
  match claims with
  | .object ms => .ok (Value.ofOption (Members.get? ms name))
  | _ => .error (.crash .capability)

def occurs (part : List CodePoint) : List CodePoint → Bool
  | [] => part.isEmpty
  | p :: rest => part.isPrefixOf (p :: rest) || occurs part rest

/-- Whether a name is among the claims. Of a list the items are meant, of a text its parts. -/
def mentions (claims : Value) (name : Text) : Except Fault Bool :=
  match claims with
  | .object ms => .ok (Members.has ms name)
  | .list items => .ok (items.any (Value.isText name))
  | .str s => .ok (occurs name.points s.points)
  | _ => .error (.crash .type)

def isNumber : Value → Bool
  | .int _ => true
  | .float _ => true
  | _ => false

/-- Passes strictly before the instant of `exp`. -/
def checkExpiry (now claims : Value) : Except Fault Verdict := do
  let exp ← claim claims "exp"
  if exp.isNull then .ok (.failure "missing exp claim")
  else if !isNumber exp then .error (.expiryNotNumber exp.typeName)
  else match now.lt? exp with
    | none => .error (.crash .type)
    | some true => .ok (.success (.object [("exp", exp)]))
    | some false => .ok (.failure "token expired")

def checkIssuer (issuer : Text) (claims : Value) : Except Fault Verdict := do
  let iss ← claim claims "iss"
  if iss.isText issuer then .ok (.success .null)
  else .ok (.failure ("unexpected issuer " ++ iss.shown))

def absent (claims : Value) : List String → Except Fault (List String)
  | [] => .ok []
  | name :: rest => do
    let there ← mentions claims name
    let names ← absent claims rest
    .ok (if there then names else name :: names)

def checkRequired (names : List String) (claims : Value) : Except Fault Verdict := do
  let names ← absent claims names
  if names.isEmpty then .ok (.success .null)
  else .ok (.failure ("missing claims: " ++ ", ".intercalate names))

/-- The security profile of claims, plain or as the `@id` of an object. -/
def profile (claims : Value) : Except Fault Value := do
  match ← claim claims "securityProfile" with
  | .object ms => .ok (Value.ofOption (Members.get? ms "@id"))
  | raw => .ok raw

def checkProfile (allowed : List Text) (claims : Value) : Except Fault Verdict := do
  match ← profile claims with
  | .null => .ok (.failure "missing securityProfile claim")
  | .str s =>
    if allowed.contains s then .ok (.success (.object [("securityProfile", .str s)]))
    else .ok (.failure ("security profile " ++ s ++ " not accepted"))
  | raw => .error (.profileNotText raw.typeName)

def ofCheck (name : String) (check : Value → Value → Except Fault Verdict) : Rule :=
  ⟨.object name, fun now claims => (check now claims).map .verdict⟩

def expiry : Rule := ofCheck "ExpiryRule" checkExpiry

def issuer (issuer : Text) : Rule := ofCheck "IssuerRule" fun _ => checkIssuer issuer

def required (names : List String) : Rule :=
  ofCheck "RequiredClaimsRule" fun _ => checkRequired names

def profiles (allowed : List Text) : Rule :=
  ofCheck "SecurityProfileRule" fun _ => checkProfile allowed

end Rule

end TokenGate
