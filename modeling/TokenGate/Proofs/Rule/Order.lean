import Mathlib.Data.List.Perm.Basic
import TokenGate.Proofs.Rule.Reports

/-! What the order of rules and their grouping into chains decide: the order of the reports, and
which fault surfaces if there are several. Whether one surfaces, and whether the claims pass, they
do not decide.
-/

set_option autoImplicit false

namespace TokenGate

theorem Report.allPassed_perm {reports others : List Report} (shuffled : reports.Perm others) :
    allPassed reports = allPassed others := by
  rw [Bool.eq_iff_iff, allPassed, allPassed, List.all_eq_true, List.all_eq_true]
  exact forall_congr' fun r => imp_congr_left shuffled.mem_iff

namespace Chain

variable {chain other : Chain} {now claims : Value} {reports : List Report}

theorem validate_fault_kind {fault : Fault} (broken : validate now claims chain = .error fault) :
    fault.kind = .ruleExecution := by
  rcases judged_or_broken chain now claims with
    judged | ⟨before, rule, after, first, rfl, judged, breaks⟩
  · obtain ⟨reports, given⟩ := validate_of_judged judged
    rw [broken] at given
    cases given
  · rw [validate_of_broken judged breaks] at broken
    cases broken
    exact breaks.kind

/-- Shuffled rules give the same reports, shuffled like them. -/
theorem validate_perm_ok (shuffled : chain.Perm other)
    (given : validate now claims chain = .ok reports) :
    ∃ others, validate now claims other = .ok others ∧ reports.Perm others := by
  obtain ⟨others, each, moved⟩ :=
    List.perm_comp_forall₂ shuffled.symm (validate_eq_ok_iff.mp given)
  exact ⟨others, validate_eq_ok_iff.mpr each, moved.symm⟩

theorem validate_perm_error (shuffled : chain.Perm other) {fault : Fault}
    (broken : validate now claims chain = .error fault) :
    ∃ first, validate now claims other = .error first := by
  cases again : validate now claims other with
  | error first => exact ⟨first, rfl⟩
  | ok others =>
    -- Had the shuffled chain got through, so would this one.
    obtain ⟨reports, given, -⟩ := validate_perm_ok shuffled.symm again
    rw [broken] at given
    cases given

/-- Rules in another order end in a fault both or both give the same reports, in another order; and
of rules that are split into two chains, the reports are those of the first chain and then those of
the second, unless the first ends in a fault, which is that of both then, or else the second. -/
theorem order_immaterial (now claims : Value) :
    (∀ chain other : Chain, chain.Perm other →
      (∃ fault first, validate now claims chain = .error fault ∧ fault.kind = .ruleExecution ∧
        validate now claims other = .error first ∧ first.kind = .ruleExecution) ∨
      ∃ reports others, validate now claims chain = .ok reports ∧
        validate now claims other = .ok others ∧ reports.Perm others ∧
        Report.allPassed reports = Report.allPassed others ∧
        (Report.violations reports).Perm (Report.violations others)) ∧
    ∀ first rest : Chain,
      (∀ reports others, validate now claims first = .ok reports →
        validate now claims rest = .ok others →
        validate now claims (first ++ rest) = .ok (reports ++ others)) ∧
      (∀ fault, validate now claims first = .error fault →
        validate now claims (first ++ rest) = .error fault) ∧
      ∀ reports fault, validate now claims first = .ok reports →
        validate now claims rest = .error fault →
        validate now claims (first ++ rest) = .error fault := by
  constructor
  · -- Which fault comes first may change with the order, but not that there is one.
    intro chain other shuffled
    cases given : validate now claims chain with
    | error fault =>
      obtain ⟨first, broken⟩ := validate_perm_error shuffled given
      exact .inl ⟨fault, first, rfl, validate_fault_kind given, broken, validate_fault_kind broken⟩
    | ok reports =>
      obtain ⟨others, again, moved⟩ := validate_perm_ok shuffled given
      exact .inr ⟨reports, others, rfl, again, moved, Report.allPassed_perm moved,
        moved.filterMap Report.violation?⟩
  · intro first rest
    refine ⟨?_, ?_, ?_⟩
    · intro reports others given further
      rw [validate_append, given, further]
      rfl
    · intro fault broken
      rw [validate_append, broken]
      rfl
    · intro reports fault given broken
      rw [validate_append, given, broken]
      rfl

theorem stumbling_moved :
    ([wordless, stumbling] : Chain).Perm [stumbling, wordless] ∧
    (∃ fault first, validate .null .null [wordless, stumbling] = .error fault ∧
      validate .null .null [stumbling, wordless] = .error first) ∧
    validate .null .null ([stumbling] ++ [wordless]) = .error (.ruleBroken "stumbling" .key) := by
  obtain ⟨shuffling, splitting⟩ := order_immaterial .null .null
  have moved : ([wordless, stumbling] : Chain).Perm [stumbling, wordless] :=
    .swap stumbling wordless []
  have alone : validate .null .null [stumbling] = .error (.ruleBroken "stumbling" .key) := rfl
  refine ⟨moved, ?_, (splitting [stumbling] [wordless]).2.1 _ alone⟩
  rcases shuffling _ _ moved with ⟨fault, first, broken, -, again, -⟩ | ⟨reports, _, given, -⟩
  · exact ⟨fault, first, broken, again⟩
  · have broken : validate .null .null [wordless, stumbling] =
        .error (.ruleBroken "stumbling" .key) := rfl
    rw [broken] at given
    cases given

end Chain

end TokenGate
