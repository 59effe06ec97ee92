import TokenGate.Config
import TokenGate.Proofs.Text.Trimming

/-! What is read of the variables of an environment. One that is unset or blank says nothing, and
any other one its text without the blanks around it.
-/

set_option autoImplicit false

namespace TokenGate

def Environment.text (env : Environment) (name : String) : List Char :=
  ((env.lookup name).getD "").toList

namespace Config

variable {env : Environment} {name : String} {c : Config}

theorem setting?_of_blank (blank : Text.Blank (env.text name)) : setting? env name = none := by
  rw [setting?, ← Environment.text, Text.trim_of_blank blank]

theorem setting?_of_seen (seen : ¬ Text.Blank (env.text name)) :
    setting? env name = some (String.ofList (Text.trim (env.text name))) := by
  rw [setting?, ← Environment.text]
  split
  · next nothing => exact absurd (Text.trim_eq_nil_iff.mp nothing) seen
  · rfl

theorem setting?_isNone : (setting? env name).isNone = (env.text name).all Text.isBlank := by
  rw [Bool.eq_iff_iff, List.all_eq_true, ← Text.Blank]
  by_cases blank : Text.Blank (env.text name)
  · simp [setting?_of_blank blank, blank]
  · simp [setting?_of_seen blank, blank]

theorem setting?_isSome_iff : (setting? env name).isSome = true ↔ ¬ Text.Blank (env.text name) := by
  rw [Option.isSome_iff_ne_none, ne_eq, ← Option.isNone_iff_eq_none, setting?_isNone,
    List.all_eq_true, Text.Blank]

theorem bare_of_setting? {s : String} (told : setting? env name = some s) : Text.Bare s.toList := by
  have seen : ¬ Text.Blank (env.text name) :=
    setting?_isSome_iff.mp (Option.isSome_iff_exists.mpr ⟨s, told⟩)
  rw [setting?_of_seen seen, Option.some.injEq] at told
  rw [← told, String.toList_ofList]
  exact Text.bare_trim seen

theorem isSet_setting? : isSet (setting? env name) = (setting? env name).isSome := by
  cases told : setting? env name with
  | none => rfl
  | some s =>
    obtain ⟨c, first, -⟩ := (bare_of_setting? told).begins
    have nonempty : s ≠ "" := by
      rintro rfl
      cases first
    simp [isSet, nonempty]

def timed (env : Environment) (timeout lifetime : Int) : Config where
  tokenUrl := (setting? env "DAPS_TOKEN_URL").getD ""
  keyUrl := (setting? env "DAPS_KEY_URL").getD ""
  keyId := some ((setting? env "DAPS_KEY_ID").getD defaultKeyId)
  issuer := setting? env "DAPS_ISSUER"
  timeout := timeout
  assertionLifetime := lifetime
  securityProfiles := itemsOf env "DAPS_SECURITY_PROFILES"
  certPath := setting? env "CONNECTOR_CERT_PATH"
  keyPath := setting? env "CONNECTOR_KEY_PATH"
  keyPassword := setting? env "CONNECTOR_KEY_PASSWORD"

theorem ofEnvironment_of_missing
    (missing : requiredSettings.filter (fun name => (setting? env name).isNone) ≠ []) :
    ofEnvironment env = .error (.settingsMissing
      (requiredSettings.filter fun name => (setting? env name).isNone)) := by
  rw [ofEnvironment, if_pos (by simpa using missing)]

theorem ofEnvironment_of_present
    (present : requiredSettings.filter (fun name => (setting? env name).isNone) = []) :
    ofEnvironment env = (seconds env "DAPS_HTTP_TIMEOUT_SECONDS" defaultTimeout).bind fun timeout =>
      (seconds env "DAPS_ASSERTION_LIFETIME_SECONDS" defaultLifetime).bind fun lifetime =>
        .ok (timed env timeout lifetime) := by
  rw [ofEnvironment, if_neg (by simp [present])]
  rfl

theorem ofEnvironment_eq_ok (read : ofEnvironment env = .ok c) :
    (∀ name ∈ requiredSettings, (setting? env name).isSome = true) ∧
    ∃ timeout lifetime,
      seconds env "DAPS_HTTP_TIMEOUT_SECONDS" defaultTimeout = .ok timeout ∧
      seconds env "DAPS_ASSERTION_LIFETIME_SECONDS" defaultLifetime = .ok lifetime ∧
      c = timed env timeout lifetime := by
  by_cases present : requiredSettings.filter (fun name => (setting? env name).isNone) = []
  · rw [ofEnvironment_of_present present] at read
    refine ⟨by simpa [List.filter_eq_nil_iff, Option.isSome_iff_ne_none] using present, ?_⟩
    cases timeout : seconds env "DAPS_HTTP_TIMEOUT_SECONDS" defaultTimeout with
    | error fault => simp [timeout, Except.bind] at read
    | ok timeout =>
      cases lifetime : seconds env "DAPS_ASSERTION_LIFETIME_SECONDS" defaultLifetime with
      | error fault => simp [timeout, lifetime, Except.bind] at read
      | ok lifetime =>
        simp only [timeout, lifetime, Except.bind, Except.ok.injEq] at read
        exact ⟨_, _, rfl, rfl, read.symm⟩
  · rw [ofEnvironment_of_missing present] at read
    cases read

theorem hasIdentity_iff (read : ofEnvironment env = .ok c) :
    c.hasIdentity = true ↔ (setting? env "CONNECTOR_CERT_PATH").isSome = true ∧
      (setting? env "CONNECTOR_KEY_PATH").isSome = true := by
  obtain ⟨-, _, _, _, _, rfl⟩ := ofEnvironment_eq_ok read
  rw [hasIdentity, timed, isSet_setting?, isSet_setting?, Bool.and_eq_true]

end Config

end TokenGate
