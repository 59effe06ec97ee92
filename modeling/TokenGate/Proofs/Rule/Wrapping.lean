import TokenGate.Proofs.Rule.Passing
import TokenGate.Proofs.Value.Written

/-! The two forms of a security profile. Claims may name theirs in an object, under `@id`, and are
then judged as if they named it without the object. Only one object is looked into: a profile that
is an object itself is none.
-/

set_option autoImplicit false

namespace TokenGate.Rule

inductive Judged (allowed : List Text) : Value → Except Fault Answer → Prop where
  | missing : Judged allowed .null
      (.ok (.verdict ⟨false, some "missing securityProfile claim", .null⟩))
  | accepted {s : Text} : s ∈ allowed → Judged allowed (.str s)
      (.ok (.verdict ⟨true, none, .object [("securityProfile", .str s)]⟩))
  | refused {s : Text} : s ∉ allowed → Judged allowed (.str s)
      (.ok (.verdict ⟨false, some ("security profile " ++ s ++ " not accepted"), .null⟩))
  | unreadable {profile : Value} : profile ≠ .null → (∀ s, profile ≠ .str s) →
      Judged allowed profile (.error (.profileNotText profile.typeName))

def Wraps (wrapper profile : Value) : Prop :=
  ∃ members, wrapper = .object members ∧ Members.get? members "@id" = some profile

variable {allowed other : List Text} {now claims profile wrapper : Value} {ms : Members}
  {outcome : Except Fault Answer}

theorem profile_of_plain (named : Members.get? ms "securityProfile" = some profile)
    (plain : ∀ members, profile ≠ .object members) :
    Rule.profile (.object ms) = .ok profile := by
  simp only [Rule.profile, claim, named, bind, Except.bind, Value.ofOption]

theorem profile_of_wrapped (named : Members.get? ms "securityProfile" = some wrapper)
    (wraps : Wraps wrapper profile) : Rule.profile (.object ms) = .ok profile := by
  obtain ⟨members, rfl, inside⟩ := wraps
  simp only [Rule.profile, claim, named, inside, bind, Except.bind, Value.ofOption]

theorem profiles_judged (read : Rule.profile claims = .ok profile) :
    Judged allowed profile ((profiles allowed).check now claims) := by
  simp only [profiles, ofCheck, checkProfile, read, bind, Except.bind]
  cases profile with
  | null => exact .missing
  | str s =>
    by_cases accepted : s ∈ allowed
    · simp only [List.contains_iff_mem.mpr accepted, if_true]
      exact .accepted accepted
    · simp only [List.contains_iff_mem, accepted, if_false]
      exact .refused accepted
  | bool _ | int _ | float _ | list _ | object _ => exact .unreadable (by simp) (by simp)

theorem Judged.unique {again : Except Fault Answer} (first : Judged allowed profile outcome)
    (second : Judged allowed profile again) : outcome = again := by
  cases first with
  | missing =>
    cases second with
    | missing => rfl
    | unreadable told => exact absurd rfl told
  | accepted member =>
    cases second with
    | accepted => rfl
    | refused absent => exact absurd member absent
    | unreadable _ text => exact absurd rfl (text _)
  | refused absent =>
    cases second with
    | accepted member => exact absurd member absent
    | refused => rfl
    | unreadable _ text => exact absurd rfl (text _)
  | unreadable told text =>
    cases second with
    | missing => exact absurd rfl told
    | accepted | refused => exact absurd rfl (text _)
    | unreadable => rfl

theorem Judged.passed_iff (judged : Judged allowed profile outcome) :
    (∃ v, outcome = .ok (.verdict v) ∧ v.passed = true) ↔ ∃ s ∈ allowed, profile = .str s := by
  cases judged with
  | missing => simp
  | accepted member => simp [member]
  | refused absent => simp [absent]
  | unreadable told text => simp [text]

/-- Of the profiles that are allowed only counts which they are. -/
theorem profiles_check_congr (same : ∀ s, s ∈ allowed ↔ s ∈ other) (now claims : Value) :
    (profiles allowed).check now claims = (profiles other).check now claims := by
  have contains : ∀ s, allowed.contains s = other.contains s := by
    intro s
    rw [Bool.eq_iff_iff, List.contains_iff_mem, List.contains_iff_mem, same]
  simp only [profiles, ofCheck, checkProfile, contains]

/-- Claims are judged by the profile that they name, and no differently if they name it in an
object; they pass exactly if it is a text among those that are allowed, in whatever order and
however often these are listed. An object within an object is refused as unreadable. -/
theorem wrapping_transparent (allowed : List Text) (now : Value) (ms : Members) :
    let rule := profiles allowed
    let claiming (profile : Value) := Value.object (Members.put ms "securityProfile" profile)
    (∀ profile, (∀ members, profile ≠ .object members) →
      Judged allowed profile (rule.check now (claiming profile)) ∧
      (rule.Passes now (claiming profile) ↔ ∃ s ∈ allowed, profile = .str s) ∧
      ∀ wrapper, Wraps wrapper profile →
        rule.check now (claiming wrapper) = rule.check now (claiming profile)) ∧
    (∀ wrapper members, Wraps wrapper (.object members) →
      ∃ fault, rule.check now (claiming wrapper) = .error fault ∧ fault.kind = .ruleExecution) ∧
    ∀ other : List Text, (∀ s, s ∈ allowed ↔ s ∈ other) →
      ∀ claims, rule.check now claims = (profiles other).check now claims := by
  intro rule claiming
  have named : ∀ profile, Members.get? (Members.put ms "securityProfile" profile)
      "securityProfile" = some profile := by
    intro profile
    rw [Members.get?_put, if_pos rfl]
  refine ⟨?_, ?_, fun other same => profiles_check_congr same now⟩
  · intro profile plain
    have judged : Judged allowed profile (rule.check now (claiming profile)) :=
      profiles_judged (profile_of_plain (named profile) plain)
    refine ⟨judged, judged.passed_iff, fun wrapper wraps => ?_⟩
    -- Both forms have the profile judged, and there is one way to judge it.
    exact Judged.unique (profiles_judged (profile_of_wrapped (named wrapper) wraps)) judged
  · intro wrapper members wraps
    have judged : Judged allowed (.object members) (rule.check now (claiming wrapper)) :=
      profiles_judged (profile_of_wrapped (named wrapper) wraps)
    have unreadable : Judged allowed (.object members)
        (.error (.profileNotText (Value.object members).typeName)) :=
      .unreadable (by simp) (by simp)
    exact ⟨_, judged.unique unreadable, rfl⟩

def wrapped (profile : Value) : Value := .object [("@type", .null), ("@id", profile)]

theorem wrapped_passes :
    let claiming (profile : Value) := Value.object [("iss", .null), ("securityProfile", profile)]
    (profiles ["p", "q"]).Passes .null (claiming (.str "q")) ∧
    (profiles ["p", "q"]).check .null (claiming (wrapped (.str "q"))) =
      (profiles ["q", "p", "q"]).check .null (claiming (.str "q")) ∧
    ¬ (profiles ["p", "q"]).Passes .null (claiming .null) ∧
    ∃ fault, (profiles ["p", "q"]).check .null (claiming (wrapped (wrapped (.str "q")))) =
      .error fault ∧ fault.kind = .ruleExecution := by
  intro claiming
  obtain ⟨judged, refused, listed⟩ :=
    wrapping_transparent ["p", "q"] .null [("iss", .null), ("securityProfile", .null)]
  have wraps : ∀ profile, Wraps (wrapped profile) profile := fun _ => ⟨_, rfl, rfl⟩
  obtain ⟨-, passes, alike⟩ := judged (.str "q") (by simp)
  obtain ⟨-, blank, -⟩ := judged .null (by simp)
  have same : ∀ s : Text, s ∈ [Text.proper "p", "q"] ↔ s ∈ [Text.proper "q", "p", "q"] := by
    simp [or_comm]
  refine ⟨passes.mpr ⟨"q", by decide, rfl⟩, ?_, fun passed => ?_, refused _ _ (wraps _)⟩
  · exact (alike (wrapped (.str "q")) (wraps _)).trans (listed _ same _)
  · obtain ⟨s, -, text⟩ := blank.mp passed
    cases text

end TokenGate.Rule
