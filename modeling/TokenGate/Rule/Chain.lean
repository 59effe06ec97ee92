import TokenGate.Rule.Basic

/-! Chains of rules. Every rule is asked, also after a failure, and every verdict is reported;
the first rule that gives none ends the run in a fault. -/

set_option autoImplicit false

namespace TokenGate

structure Report where
  rule : String
  verdict : Verdict
  deriving Repr

/-- The report of one rule. A fault of the rule's own making stays; any other one names the
rule and the kind of fault. -/
def Rule.report (rule : Rule) (now claims : Value) : Except Fault Report :=
  match rule.check now claims with
  | .ok (.verdict v) => .ok ⟨rule.name, v⟩
  | .ok (.other typeName) => .error (.ruleAnswer rule.name typeName)
  | .error fault =>
    .error (if fault.kind = .ruleExecution then fault else .ruleBroken rule.name fault.kind)

/-- A failure is listed by its reason, or by the rule's name if it has none. -/
def Report.violation? (r : Report) : Option Text :=
  if r.verdict.passed then none
  else match r.verdict.reason with
    | some reason => some (if reason = .proper "" then r.rule else reason)
    | none => some r.rule

abbrev Chain := List Rule

namespace Chain

def validate (now claims : Value) : Chain → Except Fault (List Report)
  | [] => .ok []
  | rule :: rest => do
    let report ← rule.report now claims
    let reports ← validate now claims rest
    .ok (report :: reports)

end Chain

namespace Report

def allPassed (reports : List Report) : Bool := reports.all fun r => r.verdict.passed

def violations (reports : List Report) : List Text := reports.filterMap Report.violation?

def entry (r : Report) : Value :=
  .object [("rule", .str r.rule), ("passed", .bool r.verdict.passed),
    ("reason", Value.ofText? r.verdict.reason)]

def summary (reports : List Report) : Value :=
  .object [("passed", .bool (allPassed reports)),
    ("violations", .list ((violations reports).map .str)),
    ("rules", .list (reports.map entry))]

end Report

end TokenGate
