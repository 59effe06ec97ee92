import Mathlib.Data.List.Forall2
import TokenGate.Proofs.Rule.Violations

/-! What a run of any chain of rules comes to. Each rule has its own part in it: a report if it
judges, and if it breaks off the end of the run, to which the rules behind it add nothing.
-/

set_option autoImplicit false

namespace TokenGate

namespace Rule

variable {rule : Rule} {now claims : Value} {fault : Fault} {report : Report}

def Judges (rule : Rule) (now claims : Value) (v : Verdict) : Prop :=
  rule.check now claims = .ok (.verdict v)

inductive Breaks (rule : Rule) (now claims : Value) : Fault → Prop where
  /-- A fault of the rule's own making stays as it is. -/
  | own {fault : Fault} : rule.check now claims = .error fault → fault.kind = .ruleExecution →
      Breaks rule now claims fault
  | raised {cause : Fault} : rule.check now claims = .error cause →
      cause.kind ≠ .ruleExecution → Breaks rule now claims (.ruleBroken rule.name cause.kind)
  | answered {typeName : String} : rule.check now claims = .ok (.other typeName) →
      Breaks rule now claims (.ruleAnswer rule.name typeName)

theorem Breaks.kind (broken : rule.Breaks now claims fault) : fault.kind = .ruleExecution := by
  cases broken with
  | own _ kind => exact kind
  | raised | answered => rfl

/-- Unless the fault is the rule's own, its text tells the rule and what came of it. -/
def ToldIn (rule : Rule) (now claims : Value) (fault : Fault) : Prop :=
  rule.check now claims = .error fault ∨
  (∃ cause, rule.check now claims = .error cause ∧
    fault.message = "Rule " ++ rule.name ++ " failed to execute: " ++ cause.kind.name) ∨
  ∃ typeName, rule.check now claims = .ok (.other typeName) ∧
    fault.message = "Rule " ++ rule.name ++ " returned " ++ typeName ++ ", not a result"

theorem Breaks.toldIn (broken : rule.Breaks now claims fault) : rule.ToldIn now claims fault := by
  cases broken with
  | own raised _ => exact .inl raised
  | raised raised _ => exact .inr (.inl ⟨_, raised, rfl⟩)
  | answered answered => exact .inr (.inr ⟨_, answered, rfl⟩)

theorem report_eq_ok_iff :
    rule.report now claims = .ok report ↔
      report.rule = rule.name ∧ rule.Judges now claims report.verdict := by
  unfold Judges Rule.report
  obtain ⟨name, verdict⟩ := report
  cases rule.check now claims with
  | error fault => simp
  | ok answer =>
    cases answer with
    | verdict v => simp [eq_comm]
    | other typeName => simp

theorem report_eq_error_iff : rule.report now claims = .error fault ↔
    rule.Breaks now claims fault := by
  unfold Rule.report
  constructor
  · intro broken
    split at broken
    · cases broken
    · next answered =>
      cases broken
      exact .answered answered
    · -- Only this fault is told as it is or with the name of the rule.
      next cause raised =>
      split at broken
      · next kind =>
        cases broken
        exact .own raised kind
      · next kind =>
        cases broken
        exact .raised raised kind
  · intro broken
    cases broken with
    | own raised kind => simp [raised, kind]
    | raised raised kind => simp [raised, kind]
    | answered answered => simp [answered]

theorem breaks_iff :
    (∃ fault, rule.Breaks now claims fault) ↔ ∀ v, ¬ rule.Judges now claims v := by
  constructor
  · rintro ⟨fault, broken⟩ v judged
    have reported : rule.report now claims = .ok ⟨rule.name, v⟩ :=
      report_eq_ok_iff.mpr ⟨rfl, judged⟩
    rw [report_eq_error_iff.mpr broken] at reported
    cases reported
  · intro unjudged
    cases reported : rule.report now claims with
    | error fault => exact ⟨fault, report_eq_error_iff.mp reported⟩
    | ok report => exact absurd (report_eq_ok_iff.mp reported).2 (unjudged report.verdict)

end Rule

namespace Report

/-- How a failure is listed: by its reason, unless that is empty or there is none. -/
def line (r : Report) : Text := (r.verdict.reason.filter (· ≠ .proper "")).getD r.rule

theorem violation?_of_failed {r : Report} (failed : r.verdict.passed = false) :
    r.violation? = some r.line := by
  simp only [violation?, failed, line, Bool.false_eq_true, if_false]
  cases r.verdict.reason with
  | none => rfl
  | some reason => by_cases empty : reason = .proper "" <;> simp [empty, Option.filter]

theorem violations_eq (reports : List Report) :
    violations reports = (reports.filter fun r => !r.verdict.passed).map line := by
  induction reports with
  | nil => rfl
  | cons r rest ih =>
    rw [violations, List.filterMap_cons, ← violations, ih]
    cases passed : r.verdict.passed with
    | true => simp [passed, violation?_eq_none_iff.mpr passed]
    | false => simp [passed, violation?_of_failed passed]

/-- A document that tells all about a run: whether it passed, what it lists, and each report. -/
structure ToldBy (reports : List Report) (document : Members) : Prop where
  passed : Members.get? document "passed" = some (.bool (allPassed reports))
  violations : Members.get? document "violations" = some (.list ((violations reports).map .str))
  rules : ∃ entries, Members.get? document "rules" = some (.list entries) ∧
    List.Forall₂ (fun r entry => ∃ ms, entry = .object ms ∧
      Members.get? ms "rule" = some (.str r.rule) ∧
      Members.get? ms "passed" = some (.bool r.verdict.passed) ∧
      Members.get? ms "reason" = some (Value.ofText? r.verdict.reason)) reports entries

theorem summary_tells (reports : List Report) :
    ∃ document, summary reports = .object document ∧ ToldBy reports document := by
  refine ⟨_, rfl, rfl, rfl, reports.map entry, rfl, ?_⟩
  rw [List.forall₂_map_right_iff, List.forall₂_same]
  exact fun r _ => ⟨_, rfl, rfl, rfl, rfl⟩

end Report

namespace Chain

variable {chain : Chain} {now claims : Value} {reports : List Report} {fault : Fault}

theorem validate_eq_ok_iff :
    validate now claims chain = .ok reports ↔
      List.Forall₂ (fun rule report => rule.report now claims = .ok report) chain reports := by
  induction chain generalizing reports with
  | nil => simp [validate, eq_comm]
  | cons rule rest ih =>
    rw [validate, List.forall₂_cons_left_iff]
    cases rule.report now claims with
    | error fault => simp [bind, Except.bind]
    | ok report =>
      cases further : validate now claims rest with
      | error fault => simp [← ih, further, bind, Except.bind]
      | ok others =>
        simp only [← ih, further, bind, Except.bind, Except.ok.injEq]
        constructor
        · rintro rfl
          exact ⟨report, others, rfl, rfl, rfl⟩
        · rintro ⟨_, _, rfl, rfl, rfl⟩
          rfl

theorem validate_of_judged (judged : ∀ rule ∈ chain, ∃ v, rule.Judges now claims v) :
    ∃ reports, validate now claims chain = .ok reports := by
  induction chain with
  | nil => exact ⟨[], rfl⟩
  | cons rule rest ih =>
    obtain ⟨v, verdict⟩ := judged rule List.mem_cons_self
    obtain ⟨reports, further⟩ := ih fun r member => judged r (List.mem_cons_of_mem rule member)
    have reported : rule.report now claims = .ok ⟨rule.name, v⟩ :=
      Rule.report_eq_ok_iff.mpr ⟨rfl, verdict⟩
    exact ⟨⟨rule.name, v⟩ :: reports, by rw [validate, reported, further]; rfl⟩

/-- The first rule that breaks off is the end of the run, whatever stands behind it. -/
theorem validate_of_broken {before : Chain} {rule : Rule}
    (judged : ∀ r ∈ before, ∃ v, r.Judges now claims v) (broken : rule.Breaks now claims fault)
    (others : Chain) : validate now claims (before ++ rule :: others) = .error fault := by
  obtain ⟨reports, given⟩ := validate_of_judged judged
  rw [validate_append, given, validate, Rule.report_eq_error_iff.mpr broken]
  rfl

theorem judged_or_broken (chain : Chain) (now claims : Value) :
    (∀ rule ∈ chain, ∃ v, rule.Judges now claims v) ∨
    ∃ before rule after fault, chain = before ++ rule :: after ∧
      (∀ r ∈ before, ∃ v, r.Judges now claims v) ∧ rule.Breaks now claims fault := by
  induction chain with
  | nil => exact .inl fun _ member => absurd member List.not_mem_nil
  | cons rule rest ih =>
    by_cases judges : ∃ v, rule.Judges now claims v
    · rcases ih with judged | ⟨before, first, after, fault, rfl, judged, broken⟩
      · exact .inl (List.forall_mem_cons.mpr ⟨judges, judged⟩)
      · exact .inr ⟨rule :: before, first, after, fault, rfl,
          List.forall_mem_cons.mpr ⟨judges, judged⟩, broken⟩
    · obtain ⟨fault, broken⟩ := Rule.breaks_iff.mpr (not_exists.mp judges)
      exact .inr ⟨[], rule, rest, fault, rfl,
        fun _ member => absurd member List.not_mem_nil, broken⟩

/-- If all rules of a chain judge, its run has one report for each of them, in their order and
under their names, and tells of every failure; if not, it ends in the fault of the first rule that
breaks off, and the rules behind that one have no part in it. -/
theorem validate_exhaustive (chain : Chain) (now claims : Value) :
    ((∀ rule ∈ chain, ∃ v, rule.Judges now claims v) →
      ∃ reports, validate now claims chain = .ok reports ∧
        List.Forall₂ (fun rule report => report.rule = rule.name ∧
          rule.Judges now claims report.verdict) chain reports ∧
        (Report.allPassed reports = true ↔ ∀ rule ∈ chain, rule.Passes now claims) ∧
        (Report.violations reports = [] ↔ Report.allPassed reports = true) ∧
        Report.violations reports =
          (reports.filter fun r => !r.verdict.passed).map Report.line ∧
        ∃ document, Report.summary reports = .object document ∧ Report.ToldBy reports document) ∧
    (¬ (∀ rule ∈ chain, ∃ v, rule.Judges now claims v) →
      ∃ before rule after fault, chain = before ++ rule :: after ∧
        (∀ r ∈ before, ∃ v, r.Judges now claims v) ∧
        rule.Breaks now claims fault ∧ fault.kind = .ruleExecution ∧ rule.ToldIn now claims fault ∧
        ∀ others, validate now claims (before ++ rule :: others) = .error fault) := by
  constructor
  · intro judged
    obtain ⟨reports, given⟩ := validate_of_judged judged
    have each := validate_eq_ok_iff.mp given
    have passed : Report.allPassed reports = true ↔ ∀ rule ∈ chain, rule.Passes now claims := by
      rw [← passes_iff, Passes]
      constructor
      · exact fun passed => ⟨reports, given, passed⟩
      · rintro ⟨others, again, passed⟩
        rw [given] at again
        cases again
        exact passed
    exact ⟨reports, given, each.imp fun _ _ => Rule.report_eq_ok_iff.mp, passed,
      Report.violations_eq_nil_iff, Report.violations_eq reports, Report.summary_tells reports⟩
  · -- The first rule that breaks off ends the run, whatever stands behind it.
    intro unjudged
    rcases judged_or_broken chain now claims with
      judged | ⟨before, rule, after, fault, same, judged, broken⟩
    · exact absurd judged unjudged
    · exact ⟨before, rule, after, fault, same, judged, broken, broken.kind, broken.toldIn,
        validate_of_broken judged broken⟩

def wordless : Rule := ⟨.object "Wordless", fun _ _ => .ok (.verdict ⟨false, none, .null⟩)⟩

def stumbling : Rule := ⟨.function "stumbling", fun _ _ => .error (.crash .key)⟩

theorem stumbling_ends_run :
    (∃ reports, validate .null .null [wordless] = .ok reports ∧
      Report.violations reports = [.proper "Wordless"]) ∧
    ∀ others, validate .null .null (wordless :: stumbling :: others) =
      .error (.ruleBroken "stumbling" .key) := by
  have judges : ∃ v, wordless.Judges .null .null v := ⟨_, rfl⟩
  have stumbles : ∀ v, ¬ stumbling.Judges .null .null v := fun v judged => by cases judged
  constructor
  · obtain ⟨reports, given, each, -, -, listed, -⟩ :=
      (validate_exhaustive [wordless] .null .null).1 (List.forall_mem_singleton.mpr judges)
    refine ⟨reports, given, ?_⟩
    obtain ⟨⟨name, verdict⟩, _, ⟨rfl, judged⟩, ⟨⟩, rfl⟩ := List.forall₂_cons_left_iff.mp each
    cases judged
    rw [listed]
    rfl
  · intro others
    obtain ⟨before, rule, after, fault, same, judged, broken, -, -, ends⟩ :=
      (validate_exhaustive [wordless, stumbling] .null .null).2 fun all => by
        obtain ⟨v, judged⟩ := all stumbling (by simp)
        exact stumbles v judged
    -- The first of the two judges, so it is the second one that ends the run.
    cases before with
    | nil =>
      cases same
      exact absurd judges (not_exists.mpr (Rule.breaks_iff.mp ⟨fault, broken⟩))
    | cons first before =>
      cases before with
      | nil =>
        cases same
        cases broken with
        | own raised kind => cases raised; cases kind
        | raised raised _ => cases raised; exact ends others
        | answered answered => cases answered
      | cons => simp at same

end Chain

end TokenGate
