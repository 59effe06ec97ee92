import TokenGate.Config

/-! What claims have to say so that a chain of rules lets them pass: what each of its rules asks
for, and nothing that depends on their order.
-/

set_option autoImplicit false

namespace TokenGate

namespace Report

theorem violation?_eq_none_iff {r : Report} : r.violation? = none ↔ r.verdict.passed = true := by
  unfold violation?
  cases r.verdict.passed with
  | true => simp
  | false => cases r.verdict.reason <;> simp

theorem violations_eq_nil_iff {reports : List Report} :
    violations reports = [] ↔ allPassed reports = true := by
  simp only [violations, List.filterMap_eq_nil_iff, violation?_eq_none_iff, allPassed,
    List.all_eq_true]

end Report

def Rule.Passes (rule : Rule) (now claims : Value) : Prop :=
  ∃ v, rule.check now claims = .ok (.verdict v) ∧ v.passed = true

theorem Rule.passes_iff_report {rule : Rule} {now claims : Value} :
    rule.Passes now claims ↔
      ∃ report, rule.report now claims = .ok report ∧ report.verdict.passed = true := by
  unfold Passes Rule.report
  cases rule.check now claims with
  | error fault => simp
  | ok answer =>
    cases answer with
    | verdict v => simp
    | other v => simp

namespace Chain

def Passes (chain : Chain) (now claims : Value) : Prop :=
  ∃ reports, validate now claims chain = .ok reports ∧ Report.allPassed reports = true

theorem passes_cons_iff {rule : Rule} {rest : Chain} {now claims : Value} :
    Passes (rule :: rest) now claims ↔ rule.Passes now claims ∧ Passes rest now claims := by
  rw [Rule.passes_iff_report, Passes, Passes, validate]
  cases rule.report now claims with
  | error fault => simp [bind, Except.bind]
  | ok report =>
    cases validate now claims rest with
    | error fault => simp [bind, Except.bind]
    | ok reports => simp [bind, Except.bind, Report.allPassed]

theorem passes_iff {chain : Chain} {now claims : Value} :
    chain.Passes now claims ↔ ∀ rule ∈ chain, rule.Passes now claims := by
  induction chain with
  | nil => simp [Passes, validate, Report.allPassed]
  | cons rule rest ih => rw [passes_cons_iff, ih, List.forall_mem_cons]

end Chain

namespace Rule

variable {now : Value} {ms : Members}

theorem passes_ofCheck_iff {name : String} {check : Value → Value → Except Fault Verdict}
    {claims : Value} :
    (ofCheck name check).Passes now claims ↔
      ∃ v, check now claims = .ok v ∧ v.passed = true := by
  simp only [Passes, ofCheck]
  cases check now claims with
  | error fault => simp [Except.map]
  | ok v => simp [Except.map]

/-- The form in which most checks end. -/
theorem passed_choice_iff {p : Prop} [Decidable p] {data : Value} {reason : Text} :
    (∃ v, (if p then .ok (.success data) else .ok (.failure reason) : Except Fault Verdict) =
      .ok v ∧ v.passed = true) ↔ p := by
  by_cases holds : p <;> simp [holds, Verdict.success, Verdict.failure]

theorem absent_object (names : List String) :
    absent (.object ms) names = .ok (names.filter fun name => !Members.has ms name) := by
  induction names with
  | nil => rfl
  | cons name rest ih =>
    rw [absent, ih, List.filter_cons]
    cases there : Members.has ms name <;> simp [mentions, there, bind, Except.bind]

theorem passes_required_iff {names : List String} :
    (required names).Passes now (.object ms) ↔ ∀ name ∈ names, Members.has ms name = true := by
  simp only [required, passes_ofCheck_iff, checkRequired, absent_object, bind, Except.bind]
  rw [passed_choice_iff]
  simp [List.isEmpty_iff, List.filter_eq_nil_iff]

theorem lt?_of_isNumber {a b : Value} (first : isNumber a = true)
    (second : isNumber b = true) : ∃ before, a.lt? b = some before := by
  cases a with
  | null | bool | str | list | object => cases first
  | int | float =>
    cases b with
    | null | bool | str | list | object => cases second
    | int | float => exact ⟨_, rfl⟩

/-- A token is live strictly before the instant that its claims name by a number. -/
theorem passes_expiry_iff :
    expiry.Passes now (.object ms) ↔
      ∃ exp, Members.get? ms "exp" = some exp ∧ isNumber exp = true ∧ now.lt? exp = some true := by
  rw [expiry, passes_ofCheck_iff, checkExpiry]
  simp only [claim, bind, Except.bind]
  cases Members.get? ms "exp" with
  | none => simp [Value.ofOption, Value.isNull, Verdict.failure]
  | some exp =>
    cases number : isNumber exp with
    | false =>
      cases null : exp.isNull <;> simp [Value.ofOption, null, number, Verdict.failure]
    | true =>
      -- A number is not null, and so the claim does not count as missing.
      have there : exp.isNull = false := by cases exp <;> first | rfl | cases number
      cases order : now.lt? exp with
      | none => simp [Value.ofOption, there, number, order]
      | some earlier =>
        cases earlier <;>
          simp [Value.ofOption, there, number, order, Verdict.success, Verdict.failure]

theorem passes_issuer_iff {name : Text} :
    (issuer name).Passes now (.object ms) ↔ Members.get? ms "iss" = some (.str name) := by
  simp only [issuer, passes_ofCheck_iff, checkIssuer, claim, bind, Except.bind]
  rw [passed_choice_iff]
  simp

def Profiled (ms : Members) (profile : Text) : Prop :=
  Members.get? ms "securityProfile" = some (.str profile) ∨
  ∃ inner, Members.get? ms "securityProfile" = some (.object inner) ∧
    Members.get? inner "@id" = some (.str profile)

theorem profile_eq_ok_str_iff {name : Text} :
    profile (.object ms) = .ok (.str name) ↔ Profiled ms name := by
  unfold profile Profiled
  simp only [claim, bind, Except.bind]
  cases Members.get? ms "securityProfile" with
  | none => simp [Value.ofOption]
  | some v =>
    cases v with
    | object inner => simp [Value.ofOption, ← Value.ofOption_eq_str_iff]
    | null | bool _ | int _ | float _ | str _ | list _ => simp [Value.ofOption]

theorem passes_profiles_iff {allowed : List Text} :
    (profiles allowed).Passes now (.object ms) ↔ ∃ name ∈ allowed, Profiled ms name := by
  simp only [profiles, passes_ofCheck_iff, checkProfile, ← profile_eq_ok_str_iff]
  cases named : profile (.object ms) with
  | error fault => simp [bind, Except.bind]
  | ok v =>
    cases v with
    | str name =>
      simp only [bind, Except.bind]
      rw [passed_choice_iff]
      simp
    | null => simp [bind, Except.bind, Verdict.failure]
    | bool _ | int _ | float _ | list _ | object _ => simp [bind, Except.bind]

end Rule

namespace Config

/-- Claims that these settings let in at a clock reading. An empty issuer counts as none. -/
structure Admits (c : Config) (now : Value) (ms : Members) : Prop where
  named : ∀ name ∈ ["iss", "sub"], Members.has ms name = true
  live : ∃ exp, Members.get? ms "exp" = some exp ∧ Rule.isNumber exp = true ∧
    now.lt? exp = some true
  issued : ∀ issuer, c.issuer = some issuer → issuer ≠ "" →
    Members.get? ms "iss" = some (.str issuer)
  profiled : c.securityProfiles ≠ [] → ∃ name ∈ c.securityProfiles, Rule.Profiled ms name

theorem passes_rules_iff {c : Config} {now : Value} {ms : Members} :
    c.rules.Passes now (.object ms) ↔ c.Admits now ms := by
  rw [Chain.passes_iff, rules, List.forall_mem_append, List.forall_mem_append, List.forall_mem_cons,
    List.forall_mem_singleton, Rule.passes_required_iff, Rule.passes_expiry_iff]
  -- Of the four rules the last two are there only if something is set for them.
  constructor
  · rintro ⟨⟨⟨named, live⟩, issued⟩, profiled⟩
    refine ⟨named, live, ?_, ?_⟩
    · intro issuer configured nonempty
      simp only [configured, if_neg nonempty, List.forall_mem_singleton] at issued
      exact Rule.passes_issuer_iff.mp issued
    · intro configured
      rw [if_neg (by simpa using configured), List.forall_mem_singleton] at profiled
      obtain ⟨_, listed, named⟩ := Rule.passes_profiles_iff.mp profiled
      obtain ⟨name, allowed, rfl⟩ := List.mem_map.mp listed
      exact ⟨name, allowed, named⟩
  · rintro ⟨named, live, issued, profiled⟩
    refine ⟨⟨⟨named, live⟩, ?_⟩, ?_⟩
    · intro rule asked
      split at asked
      · next issuer configured =>
        split at asked
        · cases asked
        · next nonempty =>
          cases List.mem_singleton.mp asked
          exact Rule.passes_issuer_iff.mpr (issued issuer configured nonempty)
      · cases asked
    · intro rule asked
      split at asked
      · cases asked
      · next configured =>
        cases List.mem_singleton.mp asked
        obtain ⟨name, allowed, named⟩ := profiled (by simpa using configured)
        exact Rule.passes_profiles_iff.mpr ⟨name, List.mem_map_of_mem allowed, named⟩

end Config

end TokenGate
