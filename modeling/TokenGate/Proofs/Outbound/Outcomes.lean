import TokenGate.Proofs.Identity.Signing
import TokenGate.Proofs.Transport.Status

/-! What the asking for a token comes to. Before the call stands the assertion, and without it none
is made; the one call that is made ends in a token or in one of two kinds of fault, as its outcome
decides.
-/

set_option autoImplicit false

namespace TokenGate

namespace Outcome

inductive Unsuccessful : Outcome → Prop where
  | failed : Unsuccessful .failed
  | refused {r : Response} : r.Refuses → Unsuccessful (.answered r)

inductive Issues : Outcome → Text → Prop where
  | answered {r : Response} {token : Text} : ¬ r.Refuses → r.Holds token →
      Issues (.answered r) token

/-- A call that failed as calls do, or an answer that no reader breaks down on. -/
inductive Ordinary : Outcome → Prop where
  | failed : Ordinary .failed
  | answered {r : Response} : r.json ≠ .error (.characters .broken) →
      r.json ≠ .error (.content .tooDeep) → Ordinary (.answered r)

end Outcome

namespace Acquirer

variable {o : Outcome} {endpoint : String} {token : Text} {fault : Fault}

theorem ofOutcome_eq_ok_iff : ofOutcome endpoint o = .ok token ↔ o.Issues token := by
  constructor
  · intro issued
    cases o with
    | failed | broken => cases issued
    | answered r =>
      obtain ⟨permitted, holds⟩ := ofOutcome_answered_iff.mp issued
      exact .answered permitted holds
  · rintro ⟨permitted, holds⟩
    exact ofOutcome_answered_iff.mpr ⟨permitted, holds⟩

theorem ofBody_kind {v : Value} (failed : ofBody v = .error fault) :
    fault.kind = .emptyResponse := by
  unfold ofBody at failed
  split at failed
  · split at failed
    · split at failed
      · cases failed
        rfl
      · cases failed
    · cases failed
      rfl
  · cases failed
    rfl

/-- The kind of the fault tells a call without success from an answer without a token. -/
theorem ofOutcome_kind (ordinary : o.Ordinary) (failed : ofOutcome endpoint o = .error fault) :
    (o.Unsuccessful ∧ fault.kind = .dapsConnection) ∨
      (¬ o.Unsuccessful ∧ fault.kind = .emptyResponse) := by
  cases ordinary with
  | failed =>
    cases failed
    exact .inl ⟨.failed, rfl⟩
  | @answered r prepared shallow =>
    by_cases refuses : r.Refuses
    · rw [ofOutcome_of_refuses refuses] at failed
      cases failed
      exact .inl ⟨.refused refuses, rfl⟩
    · have permitted : ¬ (Outcome.answered r).Unsuccessful := by
        intro unsuccessful
        cases unsuccessful with
        | refused refused => exact refuses refused
      refine .inr ⟨permitted, ?_⟩
      simp only [ofOutcome, ofResponse, Response.isError_eq_false_iff.mpr refuses,
        Bool.false_eq_true, if_false] at failed
      -- Two causes break the reader down, which is ruled out; any other one is told as unreadable.
      split at failed
      · next deep => exact absurd deep shallow
      · next unprepared => exact absurd unprepared prepared
      · cases failed
        rfl
      · exact ofBody_kind failed

theorem ofOutcome_dapsConnection_iff (ordinary : o.Ordinary) :
    (∃ fault, ofOutcome endpoint o = .error fault ∧ fault.kind = .dapsConnection) ↔
      o.Unsuccessful := by
  constructor
  · rintro ⟨fault, failed, kind⟩
    rcases ofOutcome_kind ordinary failed with ⟨unsuccessful, _⟩ | ⟨_, other⟩
    · exact unsuccessful
    · rw [kind] at other
      cases other
  · intro unsuccessful
    cases unsuccessful with
    | failed => exact ⟨_, rfl, rfl⟩
    | refused refuses => exact ⟨_, ofOutcome_of_refuses refuses, rfl⟩

theorem ofOutcome_emptyResponse_iff (ordinary : o.Ordinary) :
    (∃ fault, ofOutcome endpoint o = .error fault ∧ fault.kind = .emptyResponse) ↔
      ¬ o.Unsuccessful ∧ ∀ token, ¬ o.Issues token := by
  constructor
  · rintro ⟨fault, failed, kind⟩
    rcases ofOutcome_kind ordinary failed with ⟨_, other⟩ | ⟨permitted, _⟩
    · rw [kind] at other
      cases other
    · refine ⟨permitted, fun token issues => ?_⟩
      rw [ofOutcome_eq_ok_iff.mpr issues] at failed
      cases failed
  · rintro ⟨permitted, unissued⟩
    cases decided : ofOutcome endpoint o with
    | ok token => exact absurd (ofOutcome_eq_ok_iff.mp decided) (unissued token)
    | error fault =>
      rcases ofOutcome_kind ordinary decided with ⟨unsuccessful, _⟩ | ⟨_, kind⟩
      · exact absurd unsuccessful permitted
      · exact ⟨fault, rfl, kind⟩

end Acquirer

namespace TokenSource

variable {a : Acquirer} {script : Script} {now : Value} {endpoint : String} {s : ProviderState}

theorem acquire_of_unasserted {fault : Fault}
    (unasserted : a.identity.assertion now a.lifetime = .error fault) :
    (authority a script).acquire now endpoint s = (.error fault, s) := by
  apply acquire_of_unmade
  rw [Acquirer.request, unasserted]
  rfl

theorem acquire_of_asserted {assertion : String}
    (asserted : a.identity.assertion now a.lifetime = .ok assertion) :
    (authority a script).acquire now endpoint s =
      (Acquirer.ofOutcome endpoint (script s.calls.length),
        { s with calls := .sent ⟨endpoint, a.timeout, assertion⟩ :: s.calls }) := by
  apply acquire_of_made
  rw [Acquirer.request, asserted]
  rfl

/-- An identity that its certificate does not name asks for nothing, and one that cannot afford an
assertion neither. Any other one asks once, with the assertion that it signs: a token comes of it
exactly if the outcome issues it, and otherwise the kind of the fault tells whether the call had no
success or the answer no token. -/
theorem acquire_classifies {k : Rsa.PrivateKey} {start : Int} (rsa : a.identity.key = .rsa k)
    (readable : a.identity.certificate.Readable) (clock : now.Instant start)
    (ordinary : (script s.calls.length).Ordinary) :
    let acquired := (authority a script).acquire now endpoint s
    let outcome := script s.calls.length
    (a.identity.certificate.Lacks →
      ∃ fault, acquired = (.error fault, s) ∧ fault.kind = .missingCertExtension) ∧
    (¬ a.identity.certificate.Lacks → ¬ Identity.Affords k start a.lifetime →
      ∃ fault, acquired = (.error fault, s) ∧ fault.kind = .value) ∧
    (¬ a.identity.certificate.Lacks → Identity.Affords k start a.lifetime →
      (∃ assertion, a.identity.assertion now a.lifetime = .ok assertion ∧
        acquired.2 = { s with calls := .sent ⟨endpoint, a.timeout, assertion⟩ :: s.calls }) ∧
      (∀ token, acquired.1 = .ok token ↔ outcome.Issues token) ∧
      ((∃ fault, acquired.1 = .error fault ∧ fault.kind = .dapsConnection) ↔
        outcome.Unsuccessful) ∧
      ((∃ fault, acquired.1 = .error fault ∧ fault.kind = .emptyResponse) ↔
        ¬ outcome.Unsuccessful ∧ ∀ token, ¬ outcome.Issues token)) := by
  intro acquired outcome
  -- A certificate that can be read and lacks nothing names its holder.
  have named : ¬ a.identity.certificate.Lacks →
      ∃ subject authority, a.identity.certificate.Names subject authority :=
    (Certificate.named_or_lacks readable).resolve_right
  refine ⟨?_, ?_, ?_⟩
  · intro lacks
    obtain ⟨fault, unasserted, kind⟩ :=
      Identity.assertion_of_lacks lacks readable now a.lifetime
    exact ⟨fault, acquire_of_unasserted unasserted, kind⟩
  · intro complete wanting
    obtain ⟨subject, authority, names⟩ := named complete
    obtain ⟨fault, unasserted, kind⟩ :=
      Identity.assertion_of_not_affords names readable rsa clock wanting
    exact ⟨fault, acquire_of_unasserted unasserted, kind⟩
  · intro complete affords
    obtain ⟨subject, authority, names⟩ := named complete
    obtain ⟨assertion, asserted⟩ :=
      Identity.assertion_of_affords names readable rsa clock affords
    have sent : acquired = (Acquirer.ofOutcome endpoint outcome,
        { s with calls := .sent ⟨endpoint, a.timeout, assertion⟩ :: s.calls }) :=
      acquire_of_asserted asserted
    rw [sent]
    exact ⟨⟨assertion, asserted, rfl⟩, fun _ => Acquirer.ofOutcome_eq_ok_iff,
      Acquirer.ofOutcome_dapsConnection_iff ordinary, Acquirer.ofOutcome_emptyResponse_iff ordinary⟩

def earlyClock : Value := .float (.finite false 1 (-1))

theorem sampleIdentity_complete :
    sampleIdentity.certificate.Readable ∧ ¬ sampleIdentity.certificate.Lacks := by
  have computed : (Extension.readAll sampleIdentity.certificate.extensions).toOption.isSome = true ∧
      sampleIdentity.certificate.keyIdentifiers.toOption.isSome = true := by
    decide +kernel
  obtain ⟨⟨⟩, read⟩ := Option.isSome_iff_exists.mp computed.1
  obtain ⟨pair, identified⟩ := Option.isSome_iff_exists.mp computed.2
  rw [toOption_eq_some_iff] at read identified
  refine ⟨read, fun lacks => ?_⟩
  obtain ⟨fault, failed, -⟩ := lacks.keyIdentifiers_eq read
  rw [identified] at failed
  cases failed

theorem unmodified_issues :
    (Outcome.answered unmodified).Ordinary ∧ (Outcome.answered unmodified).Issues "t" := by
  have computed : (Acquirer.ofOutcome "" (.answered unmodified)).toOption = some (.proper "t") := by
    decide +kernel
  have issues := Acquirer.ofOutcome_eq_ok_iff.mp (toOption_eq_some_iff.mp computed)
  refine ⟨?_, issues⟩
  cases issues with
  | answered permitted holds =>
    obtain ⟨ms, read, -⟩ := holds
    refine .answered ?_ ?_
    · rw [read]
      exact nofun
    · rw [read]
      exact nofun

theorem sampleIdentity_signs : ∃ k, sampleIdentity.key = .rsa k ∧ 62 ≤ k.toPublic.size :=
  ⟨_, rfl, by decide +kernel⟩

theorem unmodified_asked_once :
    let source := authority ⟨sampleIdentity, 10, 60⟩ fun _ => .answered unmodified
    ∃ assertion, source.acquire earlyClock "" .empty =
      (.ok "t", ⟨.empty, none, [.sent ⟨"", 10, assertion⟩]⟩) := by
  intro source
  obtain ⟨readable, complete⟩ := sampleIdentity_complete
  obtain ⟨ordinary, issues⟩ := unmodified_issues
  obtain ⟨k, rsa, room⟩ := sampleIdentity_signs
  have clock : earlyClock.Instant 0 := .float rfl
  have affords : Identity.Affords k 0 60 := ⟨by decide +kernel, by decide +kernel, room⟩
  obtain ⟨-, -, asks⟩ := @acquire_classifies ⟨sampleIdentity, 10, 60⟩
    (fun _ => .answered unmodified) earlyClock "" .empty k 0 rsa readable clock ordinary
  obtain ⟨⟨assertion, -, sent⟩, issued, -⟩ := asks complete affords
  exact ⟨assertion, Prod.ext ((issued "t").mpr issues) sent⟩

def lastTime : Int := (Nat.pow 10 Text.greatestSize : Nat) - 1

/-- A named identity asks for nothing at the last time that can be written, since the end of the
assertion cannot be, nor ever if it signs with a key as small as this one. -/
theorem unaffordable_unasked :
    let issuing : Script := fun _ => .answered unmodified
    let small : PrivateKey := .rsa ⟨⟨33, 3⟩, 7, 3, 11, 1, 7, 2⟩
    ((Value.int lastTime).Instant lastTime ∧ (∃ k, sampleIdentity.key = .rsa k) ∧
      sampleIdentity.certificate.Readable ∧ ¬ sampleIdentity.certificate.Lacks ∧
      (issuing 0).Ordinary ∧ (issuing 0).Issues "t") ∧
    (authority ⟨sampleIdentity, 10, 86400⟩ issuing).acquire (.int lastTime) "" .empty =
      (.error .integerUnwritable, .empty) ∧
    (authority ⟨⟨sampleIdentity.certificate, small⟩, 10, 86400⟩ issuing).acquire
        (.int 0) "" .empty =
      (.error (.crash .value), .empty) := by
  intro issuing small
  obtain ⟨readable, complete⟩ := sampleIdentity_complete
  obtain ⟨k, rsa, -⟩ := sampleIdentity_signs
  obtain ⟨subject, authority, names⟩ := (Certificate.named_or_lacks readable).resolve_right complete
  have late : Text.writable (lastTime + 86400) = false := by
    rw [Text.writable, lastTime, decide_eq_false_iff_not]
    generalize Nat.pow 10 Text.greatestSize = bound
    omega
  refine ⟨⟨.int lastTime, ⟨k, rsa⟩, readable, complete, unmodified_issues⟩, ?_, ?_⟩
  · refine acquire_of_unasserted ?_
    rw [Identity.assertion_of_names names readable rsa (.int lastTime), late, Bool.not_false,
      Bool.or_true, if_pos rfl]
  · have written : Text.writable 0 = true ∧ Text.writable (0 + 86400) = true := by decide +kernel
    refine acquire_of_unasserted ?_
    rw [Identity.assertion_of_names (i := ⟨sampleIdentity.certificate, small⟩) names readable rfl
      (.int 0), Identity.signAssertion_of_crowded (by decide), written.1, written.2]
    rfl

end TokenSource

end TokenGate
