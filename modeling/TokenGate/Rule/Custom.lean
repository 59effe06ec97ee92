import TokenGate.Rule.Basic

/-! Rules of one's own, given by what they do with any claims. -/

set_option autoImplicit false

namespace TokenGate.Rule

inductive Behaviour where
  | raises (kind : Kind) (text : String)
  /-- Hand back a value that is no verdict. -/
  | returns (v : Value)
  | passes (data : Value)
  /-- Pass if a claim is there, fail otherwise. -/
  | passesWith (claim : Text) (reason : Option Text)
  | fails (reason : Option Text)
  deriving Repr

/-- The fault of a kind with a text. A key that is not found is named by the text. -/
def faultOf (kind : Kind) (text : String) : Fault :=
  match kind with
  | .keyNotFound => .keyNotFound (some (.proper text))
  | kind => .raised kind text

def Behaviour.answer (b : Behaviour) (claims : Value) : Except Fault Answer :=
  match b with
  | .raises kind text => .error (faultOf kind text)
  | .returns v => .ok (.other v.typeName)
  | .passes data => .ok (.verdict (.success data))
  | .passesWith claim reason => do
    if ← mentions claims claim then .ok (.verdict (.success .null))
    else .ok (.verdict ⟨false, reason, .null⟩)
  | .fails reason => .ok (.verdict ⟨false, reason, .null⟩)

/-- A function with this name if that is its sort, or else an object of the class that is. -/
def custom (sort name : String) (b : Behaviour) : Rule :=
  ⟨if sort = functionSort then .function name else .object sort, fun _ => b.answer⟩

end TokenGate.Rule
