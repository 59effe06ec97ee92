import TokenGate.Proofs.Rule.Passing

/-! What a run of the configured rules comes to, told from the settings, the clock and the claims
alone: the claims on which it breaks off, and the list of its violations on all others.
-/

set_option autoImplicit false

namespace TokenGate

/-- The claim of a name, where null counts as none. -/
def Members.given? (ms : Members) (name : Text) : Option Value :=
  (Members.get? ms name).filter fun v => !v.isNull

def Members.profile? (ms : Members) : Option Value :=
  match Members.given? ms "securityProfile" with
  | some (.object inner) => Members.given? inner "@id"
  | named => named

def Members.Misdated (ms : Members) : Prop :=
  ∃ exp, Members.given? ms "exp" = some exp ∧ Rule.isNumber exp = false

def Members.Misprofiled (ms : Members) : Prop :=
  ∃ named, Members.profile? ms = some named ∧ ∀ profile, named ≠ .str profile

namespace Config

variable (c : Config) (now : Value) (ms : Members)

/-- Claims that cannot be judged by these settings, one way or the other. -/
def Baffled : Prop :=
  Members.Misdated ms ∨ (c.securityProfiles ≠ [] ∧ Members.Misprofiled ms)

def nameObjections : List Text :=
  match Members.has ms "iss", Members.has ms "sub" with
  | true, true => []
  | true, false => ["missing claims: sub"]
  | false, true => ["missing claims: iss"]
  | false, false => ["missing claims: iss, sub"]

def timeObjections : List Text :=
  match Members.given? ms "exp" with
  | none => ["missing exp claim"]
  | some exp => if now.lt? exp = some true then [] else ["token expired"]

/-- An empty issuer counts as none. -/
def issuerObjections (issuer : Option String) : List Text :=
  match issuer with
  | none => []
  | some issuer =>
    let iss := Value.ofOption (Members.get? ms "iss")
    if issuer = "" ∨ iss.isText issuer then [] else ["unexpected issuer " ++ iss.shown]

def profileObjections (allowed : List Text) : List Text :=
  if allowed = [] then []
  else match Members.profile? ms with
    | none => ["missing securityProfile claim"]
    | some (.str profile) =>
      if profile ∈ allowed then [] else ["security profile " ++ profile ++ " not accepted"]
    | some _ => []

def objections : List Text :=
  nameObjections ms ++ timeObjections now ms ++ issuerObjections ms c.issuer ++
    profileObjections ms (c.securityProfiles.map .proper)

end Config

/-- A rule breaks off on claims exactly in one case, and in every other one it gives a verdict
that adds these lines to the violations. -/
structure Rule.Gives (rule : Rule) (now claims : Value) (baffled : Prop) (lines : List Text) :
    Prop where
  fault : baffled → ∃ fault, rule.report now claims = .error fault ∧ fault.kind = .ruleExecution
  report : ¬ baffled → ∃ report, rule.report now claims = .ok report ∧
    report.violation?.toList = lines

structure Chain.Gives (chain : Chain) (now claims : Value) (baffled : Prop)
    (lines : List Text) : Prop where
  fault : baffled → ∃ fault, Chain.validate now claims chain = .error fault ∧
    fault.kind = .ruleExecution
  reports : ¬ baffled → ∃ reports, Chain.validate now claims chain = .ok reports ∧
    Report.violations reports = lines

namespace Chain

variable {rule : Rule} {first rest : Chain} {now claims : Value} {p q : Prop}
  {lines more : List Text}

theorem Gives.nil : Gives [] now claims False [] :=
  ⟨False.elim, fun _ => ⟨[], rfl, rfl⟩⟩

theorem validate_append :
    validate now claims (first ++ rest) = (do
      let reports ← validate now claims first
      let others ← validate now claims rest
      .ok (reports ++ others)) := by
  induction first with
  | nil =>
    cases same : validate now claims rest <;> simp [validate, same, bind, Except.bind]
  | cons rule first ih =>
    rw [List.cons_append, validate, validate, ih]
    cases rule.report now claims with
    | error fault => rfl
    | ok report =>
      cases validate now claims first with
      | error fault => rfl
      | ok reports => cases validate now claims rest <;> rfl

theorem gives_single (one : rule.Gives now claims p lines) : Gives [rule] now claims p lines := by
  constructor
  · intro baffled
    obtain ⟨fault, broken, kind⟩ := one.fault baffled
    exact ⟨fault, by rw [validate, broken]; rfl, kind⟩
  · intro able
    obtain ⟨report, given, added⟩ := one.report able
    refine ⟨[report], by rw [validate, given]; rfl, ?_⟩
    rw [← added, Report.violations, List.filterMap_cons]
    cases report.violation? <;> rfl

/-- Of two chains in a row either may break off, and the violations of both are listed. -/
theorem Gives.append (one : Gives first now claims p lines)
    (other : Gives rest now claims q more) :
    Gives (first ++ rest) now claims (p ∨ q) (lines ++ more) := by
  constructor
  · intro baffled
    rw [validate_append]
    by_cases early : p
    · obtain ⟨fault, broken, kind⟩ := one.fault early
      exact ⟨fault, by rw [broken]; rfl, kind⟩
    · -- The first chain gets through, so it is the second one that breaks off.
      obtain ⟨reports, given, -⟩ := one.reports early
      obtain ⟨fault, broken, kind⟩ := other.fault (baffled.resolve_left early)
      exact ⟨fault, by rw [given, broken]; rfl, kind⟩
  · intro able
    obtain ⟨early, late⟩ := not_or.mp able
    obtain ⟨reports, given, listed⟩ := one.reports early
    obtain ⟨others, further, added⟩ := other.reports late
    refine ⟨reports ++ others, by rw [validate_append, given, further]; rfl, ?_⟩
    rw [← listed, ← added, Report.violations, List.filterMap_append]
    rfl

end Chain

namespace Report

variable {name : String} {reason : Text}

@[simp] theorem violation?_success (data : Value) : violation? ⟨name, .success data⟩ = none := rfl

theorem violation?_failure (told : reason ≠ "") :
    violation? ⟨name, .failure reason⟩ = some reason := by
  simp [violation?, Verdict.failure, told]

end Report

namespace Rule

variable {now claims : Value} {ms : Members} {name : Text} {className : String}
  {check : Value → Value → Except Fault Verdict} {p : Prop} {lines : List Text}

theorem Gives.of_check
    (fault : p → ∃ fault, check now claims = .error fault ∧ fault.kind = .ruleExecution)
    (verdict : ¬ p → ∃ v, check now claims = .ok v ∧
      (⟨className, v⟩ : Report).violation?.toList = lines) :
    (ofCheck className check).Gives now claims p lines := by
  constructor
  · intro baffled
    obtain ⟨fault, broken, kind⟩ := fault baffled
    refine ⟨fault, ?_, kind⟩
    simp [Rule.report, ofCheck, broken, Except.map, kind]
  · intro able
    obtain ⟨v, given, listed⟩ := verdict able
    refine ⟨⟨className, v⟩, ?_, listed⟩
    simp [Rule.report, ofCheck, given, Except.map]

theorem required_gives (now : Value) (ms : Members) :
    (required ["iss", "sub"]).Gives now (.object ms) False (Config.nameObjections ms) := by
  refine .of_check False.elim fun _ => ?_
  simp only [checkRequired, absent_object, bind, Except.bind, Config.nameObjections,
    List.filter_cons, List.filter_nil]
  cases Members.has ms "iss" <;> cases Members.has ms "sub" <;> exact ⟨_, rfl, rfl⟩

theorem claim_of_ungiven (missing : Members.given? ms name = none) :
    claim (.object ms) name = .ok .null := by
  unfold Members.given? at missing
  rw [claim]
  cases there : Members.get? ms name with
  | none => rfl
  | some v =>
    rw [there, Option.filter_eq_none_iff] at missing
    have null := missing v rfl
    cases v <;> first | rfl | simp [Value.isNull] at null

theorem claim_of_given {v : Value} (there : Members.given? ms name = some v) :
    claim (.object ms) name = .ok v ∧ v.isNull = false := by
  unfold Members.given? at there
  rw [Option.filter_eq_some_iff] at there
  obtain ⟨found, notNull⟩ := there
  exact ⟨by rw [claim, found]; rfl, by simpa using notNull⟩

theorem expiry_gives (clock : isNumber now = true) (ms : Members) :
    expiry.Gives now (.object ms) (Members.Misdated ms) (Config.timeObjections now ms) := by
  unfold Members.Misdated Config.timeObjections
  cases given : Members.given? ms "exp" with
  | none =>
    refine .of_check (by simp) fun _ => ⟨.failure "missing exp claim", ?_, ?_⟩
    · simp [checkExpiry, claim_of_ungiven given, bind, Except.bind, Value.isNull]
    · simp [Report.violation?_failure]
  | some exp =>
    obtain ⟨named, notNull⟩ := claim_of_given given
    cases number : isNumber exp with
    | false =>
      refine .of_check (fun _ => ⟨.expiryNotNumber exp.typeName, ?_, rfl⟩) ?_
      · simp [checkExpiry, named, notNull, number, bind, Except.bind]
      · exact fun dated => absurd ⟨exp, rfl, number⟩ dated
    | true =>
      -- Two numbers always have an order, and so the comparison comes to a verdict.
      obtain ⟨before, order⟩ := lt?_of_isNumber clock number
      refine .of_check (by simp [number]) fun _ => ?_
      cases before with
      | true =>
        refine ⟨.success (.object [("exp", exp)]), ?_, by simp [order]⟩
        simp [checkExpiry, named, notNull, number, order, bind, Except.bind]
      | false =>
        refine ⟨.failure "token expired", ?_, by simp [order, Report.violation?_failure]⟩
        simp [checkExpiry, named, notNull, number, order, bind, Except.bind]

theorem issuer_gives {issuer : String} (set : issuer ≠ "") :
    (Rule.issuer issuer).Gives now (.object ms) False
      (Config.issuerObjections ms (some issuer)) := by
  refine .of_check False.elim fun _ => ?_
  simp only [checkIssuer, claim, bind, Except.bind, Config.issuerObjections, set, false_or]
  cases Value.isText issuer (Value.ofOption (Members.get? ms "iss")) with
  | true => exact ⟨.success .null, rfl, rfl⟩
  | false => exact ⟨.failure _, rfl, by simp [Report.violation?_failure]⟩

theorem profile_object (ms : Members) :
    profile (.object ms) = .ok (Value.ofOption (Members.profile? ms)) := by
  unfold profile Members.profile?
  cases given : Members.given? ms "securityProfile" with
  | none => rw [claim_of_ungiven given]; rfl
  | some v =>
    rw [(claim_of_given given).1]
    cases v with
    | object inner =>
      -- Under `@id`, too, null counts as none.
      have below : claim (.object inner) "@id" =
          .ok (Value.ofOption (Members.given? inner "@id")) := by
        cases there : Members.given? inner "@id" with
        | none => exact claim_of_ungiven there
        | some named => exact (claim_of_given there).1
      exact below
    | null | bool _ | int _ | float _ | str _ | list _ => rfl

theorem isNull_of_profile? {v : Value} (named : Members.profile? ms = some v) :
    v.isNull = false := by
  unfold Members.profile? at named
  split at named
  · exact (claim_of_given named).2
  · exact (claim_of_given named).2

theorem profiles_gives {allowed : List Text} (set : allowed ≠ []) :
    (profiles allowed).Gives now (.object ms) (Members.Misprofiled ms)
      (Config.profileObjections ms allowed) := by
  have read := profile_object ms
  simp only [Members.Misprofiled, Config.profileObjections, set, if_false]
  cases named : Members.profile? ms with
  | none =>
    rw [named] at read
    refine .of_check (by simp) fun _ => ⟨.failure "missing securityProfile claim", ?_, ?_⟩
    · simp [checkProfile, read, Value.ofOption, bind, Except.bind]
    · simp [Report.violation?_failure]
  | some v =>
    rw [named] at read
    cases v with
    | null => cases isNull_of_profile? named
    | str profile =>
      refine .of_check (by simp) fun _ => ?_
      by_cases accepted : profile ∈ allowed
      · refine ⟨.success (.object [("securityProfile", .str profile)]), ?_, by simp [accepted]⟩
        simp [checkProfile, read, Value.ofOption, accepted, bind, Except.bind]
      · refine ⟨.failure ("security profile " ++ profile ++ " not accepted"), ?_, ?_⟩
        · simp [checkProfile, read, Value.ofOption, accepted, bind, Except.bind]
        · have told : Text.proper "security profile " ++ profile ++ " not accepted" ≠ .proper "" :=
            Text.append_ne_empty (by rw [Text.points_append]; simp [Text.points]) _
          simp [accepted, Report.violation?_failure told]
    | bool _ | int _ | float _ | list _ | object _ =>
      -- Any other value cannot be read as a profile, and the rule breaks off.
      refine .of_check (fun _ => ?_) fun readable => absurd ⟨_, rfl, by simp⟩ readable
      exact ⟨_, by rw [checkProfile, read]; rfl, rfl⟩

end Rule

namespace Config

variable {now : Value} {ms : Members}

def issuerRules : Option String → Chain
  | some issuer => if issuer = "" then [] else [Rule.issuer issuer]
  | none => []

def profileRules (allowed : List Text) : Chain :=
  if allowed.isEmpty then [] else [Rule.profiles allowed]

theorem rules_eq (c : Config) : c.rules =
    [Rule.required ["iss", "sub"]] ++ [Rule.expiry] ++ issuerRules c.issuer ++
      profileRules (c.securityProfiles.map .proper) := by
  unfold rules issuerRules profileRules
  cases c.issuer <;> simp

theorem issuerRules_gives (issuer : Option String) :
    (issuerRules issuer).Gives now (.object ms) False (issuerObjections ms issuer) := by
  unfold issuerRules
  cases issuer with
  | none => exact .nil
  | some issuer =>
    by_cases empty : issuer = ""
    · simpa [empty, issuerObjections] using Chain.Gives.nil
    · simpa [empty] using Chain.gives_single (Rule.issuer_gives empty)

theorem profileRules_gives (allowed : List Text) :
    (profileRules allowed).Gives now (.object ms) (allowed ≠ [] ∧ Members.Misprofiled ms)
      (profileObjections ms allowed) := by
  unfold profileRules
  by_cases anyone : allowed = []
  · simpa [anyone, profileObjections] using Chain.Gives.nil
  · simpa [anyone] using Chain.gives_single (Rule.profiles_gives anyone)

theorem rules_gives (clock : Rule.isNumber now = true) (c : Config) (ms : Members) :
    c.rules.Gives now (.object ms) (c.Baffled ms) (c.objections now ms) := by
  have named := Chain.gives_single (Rule.required_gives now ms)
  have dated := Chain.gives_single (Rule.expiry_gives clock ms)
  have all := ((named.append dated).append (issuerRules_gives c.issuer)).append
    (profileRules_gives (c.securityProfiles.map .proper))
  have baffled : (((False ∨ Members.Misdated ms) ∨ False) ∨
      (c.securityProfiles.map Text.proper ≠ [] ∧ Members.Misprofiled ms)) = c.Baffled ms := by
    simp [Baffled]
  rw [baffled] at all
  rw [rules_eq]
  exact all

theorem admits_iff (clock : Rule.isNumber now = true) (c : Config) :
    c.Admits now ms ↔ ¬ c.Baffled ms ∧ c.objections now ms = [] := by
  have given := rules_gives clock c ms
  rw [← passes_rules_iff]
  constructor
  · rintro ⟨reports, told, passed⟩
    have able : ¬ c.Baffled ms := by
      intro baffled
      obtain ⟨fault, broken, -⟩ := given.fault baffled
      rw [told] at broken
      cases broken
    obtain ⟨others, again, listed⟩ := given.reports able
    rw [told] at again
    cases again
    exact ⟨able, listed.symm.trans (Report.violations_eq_nil_iff.mpr passed)⟩
  · rintro ⟨able, nothing⟩
    obtain ⟨reports, told, listed⟩ := given.reports able
    exact ⟨reports, told, Report.violations_eq_nil_iff.mp (listed.trans nothing)⟩

def opening (line : Text) : List CodePoint := line.points.take 9

theorem opening_append {fixed : Text} (long : 9 ≤ fixed.points.length) (rest : Text) :
    opening (fixed ++ rest) = opening fixed := by
  rw [opening, Text.points_append, List.take_append_of_le_length long, opening]

theorem nameObjections_openings :
    ((nameObjections ms).map opening).Sublist [opening "missing claims"] := by
  unfold nameObjections
  cases Members.has ms "iss" <;> cases Members.has ms "sub" <;> decide

theorem timeObjections_openings :
    ((timeObjections now ms).map opening).Sublist
      [opening "missing exp claim", opening "token expired"] := by
  unfold timeObjections
  split
  · decide
  · split <;> decide

theorem issuerObjections_openings (issuer : Option String) :
    ((issuerObjections ms issuer).map opening).Sublist [opening "unexpected issuer "] := by
  unfold issuerObjections
  split
  · decide
  · simp only
    split
    · simp
    · have long : 9 ≤ (Text.proper "unexpected issuer ").points.length := by decide
      simp only [List.map_singleton, opening_append long, List.Sublist.refl]

theorem profileObjections_openings (allowed : List Text) :
    ((profileObjections ms allowed).map opening).Sublist
      [opening "missing securityProfile claim", opening "security profile "] := by
  unfold profileObjections
  split
  · simp
  · split
    · decide
    · next profile _ =>
      split
      · simp
      · -- The opening ends in front of the profile.
        have long : 9 ≤ (Text.proper "security profile ").points.length := by decide
        have longer : 9 ≤ (Text.proper "security profile " ++ profile).points.length := by
          rw [Text.points_append, List.length_append]
          exact Nat.le_add_right_of_le long
        rw [List.map_singleton, opening_append longer, opening_append long]
        simp
    · simp

theorem objections_nodup (c : Config) (now : Value) (ms : Members) :
    (c.objections now ms).Nodup := by
  -- Of its own openings each rule brings one at most, and no two rules have one in common.
  have begun : ((c.objections now ms).map opening).Sublist
      ([opening "missing claims"] ++ [opening "missing exp claim", opening "token expired"] ++
        [opening "unexpected issuer "] ++
        [opening "missing securityProfile claim", opening "security profile "]) := by
    rw [objections, List.map_append, List.map_append, List.map_append]
    exact ((nameObjections_openings.append timeObjections_openings).append
      (issuerObjections_openings _)).append (profileObjections_openings _)
  have distinct : ([opening "missing claims"] ++
      [opening "missing exp claim", opening "token expired"] ++ [opening "unexpected issuer "] ++
      [opening "missing securityProfile claim", opening "security profile "]).Nodup := by
    decide
  exact List.Pairwise.of_map opening (fun _ _ apart same => apart (same ▸ rfl))
    (distinct.sublist begun)

/-- A run of the configured rules breaks off exactly on claims that they cannot judge, and on all
others it lists what is wrong with them. -/
theorem rules_violations (clock : Rule.isNumber now = true) (c : Config) (ms : Members) :
    ((∃ fault, Chain.validate now (.object ms) c.rules = .error fault ∧
        fault.kind = .ruleExecution) ↔ c.Baffled ms) ∧
    (¬ c.Baffled ms → ∃ reports, Chain.validate now (.object ms) c.rules = .ok reports ∧
      Report.violations reports = c.objections now ms ∧
      (c.objections now ms).Nodup ∧
      (Report.allPassed reports = true ↔ c.objections now ms = []) ∧
      (Members.given? ms "exp" = none →
        (c.objections now ms).count (.proper "missing exp claim") = 1)) := by
  have given := rules_gives clock c ms
  refine ⟨⟨?_, given.fault⟩, fun able => ?_⟩
  · rintro ⟨fault, broken, -⟩
    refine Classical.byContradiction fun able => ?_
    obtain ⟨reports, told, -⟩ := given.reports able
    rw [told] at broken
    cases broken
  · obtain ⟨reports, told, listed⟩ := given.reports able
    have nodup := objections_nodup c now ms
    refine ⟨reports, told, listed, nodup, ?_, fun missing => ?_⟩
    · rw [← listed, Report.violations_eq_nil_iff]
    · have timed : timeObjections now ms = [.proper "missing exp claim"] := by
        rw [timeObjections, missing]
      have reported : .proper "missing exp claim" ∈ c.objections now ms := by
        simp [objections, timed]
      -- No line comes twice.
      rw [nodup.count, if_pos reported]

def demanding : Config := ⟨"t", "k", none, some "i", 1, 1, ["p"], none, none, none⟩

def poorClaims : Members :=
  [("exp", .int 5), ("securityProfile", .object [("@id", .str "q")])]

theorem poorClaims_violations :
    Rule.isNumber (.int 5) = true ∧ ¬ demanding.Baffled poorClaims ∧
      ∃ reports, Chain.validate (.int 5) (.object poorClaims) demanding.rules = .ok reports ∧
        Report.violations reports = [Text.proper "missing claims: iss, sub", "token expired",
          "unexpected issuer None", "security profile q not accepted"] ∧
        Report.allPassed reports = false := by
  have numeric : Rule.isNumber (.int 5) = true := rfl
  have able : ¬ demanding.Baffled poorClaims := by
    rintro (⟨exp, there, number⟩ | ⟨-, named, there, other⟩)
    · cases there
      cases number
    · cases there
      exact other "q" rfl
  obtain ⟨reports, told, listed, -, passed, -⟩ :=
    (rules_violations numeric demanding poorClaims).2 able
  have wrong : demanding.objections (.int 5) poorClaims = [Text.proper "missing claims: iss, sub",
      "token expired", "unexpected issuer None", "security profile q not accepted"] := by
    decide +kernel
  refine ⟨numeric, able, reports, told, listed.trans wrong, ?_⟩
  rw [wrong] at passed
  simpa using passed

end Config

end TokenGate
