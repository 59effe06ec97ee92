import TokenGate.Proofs.Config.Seconds
import TokenGate.Proofs.Rule.Violations

/-! Blanks around the variables of an environment make no difference to what is read of it, and none
are left in the settings: what is set is set to something, and what is not set asks for nothing.
-/

set_option autoImplicit false

namespace TokenGate

/-- Each variable has the same text in both environments, up to the blanks around it. -/
def Environment.SameButBlanks (env other : Environment) : Prop :=
  ∀ name, ∃ core, Text.Pads core (env.text name) ∧ Text.Pads core (other.text name)

namespace Environment.SameButBlanks

variable {env other : Environment}

theorem refl (env : Environment) : env.SameButBlanks env :=
  fun name => ⟨env.text name, .refl _, .refl _⟩

theorem cons {name value valueToo : String} {core : List Char} (pads : Text.Pads core value.toList)
    (padsToo : Text.Pads core valueToo.toList) (same : env.SameButBlanks other) :
    SameButBlanks ((name, value) :: env) ((name, valueToo) :: other) := by
  intro asked
  unfold Environment.text
  rw [List.lookup_cons, List.lookup_cons]
  split
  · exact ⟨core, pads, padsToo⟩
  · exact same asked

theorem setting?_eq (same : env.SameButBlanks other) (name : String) :
    Config.setting? env name = Config.setting? other name := by
  obtain ⟨core, pads, padsToo⟩ := same name
  rw [Config.setting?, Config.setting?, ← text, ← text, pads.trim_eq, padsToo.trim_eq]

theorem seconds_eq (same : env.SameButBlanks other) (name : String) (default : Int) :
    Config.seconds env name default = Config.seconds other name default := by
  rw [Config.seconds, Config.seconds, same.setting?_eq]

theorem timed_eq (same : env.SameButBlanks other) (timeout lifetime : Int) :
    Config.timed env timeout lifetime = Config.timed other timeout lifetime := by
  simp only [Config.timed, Config.itemsOf, same.setting?_eq]

theorem ofEnvironment_eq (same : env.SameButBlanks other) :
    Config.ofEnvironment env = Config.ofEnvironment other := by
  have missing : Config.requiredSettings.filter (fun name => (Config.setting? env name).isNone) =
      Config.requiredSettings.filter fun name => (Config.setting? other name).isNone := by
    simp only [same.setting?_eq]
  by_cases present :
      Config.requiredSettings.filter (fun name => (Config.setting? other name).isNone) = []
  · rw [Config.ofEnvironment_of_present (missing.trans present),
      Config.ofEnvironment_of_present present]
    simp only [same.seconds_eq, same.timed_eq]
  · rw [Config.ofEnvironment_of_missing (missing ▸ present),
      Config.ofEnvironment_of_missing present, missing]

end Environment.SameButBlanks

namespace Config

variable {env : Environment} {c : Config} {name p : String} {cs : List Char}

theorem mem_items : p ∈ items cs ↔
    ∃ part ∈ Text.splitAt ',' cs, ¬ Text.Blank part ∧ p = String.ofList (Text.trim part) := by
  simp only [items, List.mem_map, List.mem_filter, ← Text.trim_eq_nil_iff]
  constructor
  · rintro ⟨core, ⟨⟨part, member, rfl⟩, seen⟩, rfl⟩
    exact ⟨part, member, by simpa using seen, rfl⟩
  · rintro ⟨part, member, seen, rfl⟩
    exact ⟨_, ⟨⟨part, member, rfl⟩, by simpa using seen⟩, rfl⟩

theorem toList_setting? : ((setting? env name).getD "").toList = Text.trim (env.text name) := by
  by_cases blank : Text.Blank (env.text name)
  · rw [setting?_of_blank blank, Text.trim_of_blank blank]
    rfl
  · rw [setting?_of_seen blank, Option.getD_some, String.toList_ofList]

theorem bare_of_mem_itemsOf (member : p ∈ itemsOf env name) :
    Text.Bare p.toList ∧ ',' ∉ p.toList := by
  rw [itemsOf, mem_items] at member
  obtain ⟨part, there, seen, rfl⟩ := member
  rw [String.toList_ofList]
  constructor
  · exact Text.bare_trim seen
  · intro inside
    exact Text.not_mem_of_mem_splitAt there (Text.mem_of_mem_trim inside)

/-- Something is listed if some part between the commas is not blank; blanks around all of them
do not matter. -/
theorem itemsOf_ne_nil_iff : itemsOf env name ≠ [] ↔
    ∃ part ∈ (env.text name).splitOn ',', ¬ Text.Blank part := by
  have listed : itemsOf env name ≠ [] ↔
      ∃ part ∈ Text.splitAt ',' (Text.trim (env.text name)), ¬ Text.Blank part := by
    rw [← List.length_pos_iff, List.length_pos_iff_exists_mem, itemsOf, toList_setting?]
    simp only [mem_items]
    constructor
    · rintro ⟨-, part, there, seen, -⟩
      exact ⟨part, there, seen⟩
    · rintro ⟨part, there, seen⟩
      exact ⟨_, part, there, seen, rfl⟩
  rw [listed, ← Text.splitAt_eq_splitOn, Text.exists_seen_part, Text.exists_seen_part]
  constructor
  · rintro ⟨c, there, other, seen⟩
    exact ⟨c, Text.mem_of_mem_trim there, other, seen⟩
  · rintro ⟨c, there, other, seen⟩
    exact ⟨c, (Text.mem_trim_iff seen).mpr there, other, seen⟩

/-! Which rules are asked for -/

theorem ofCheck_ne {first second : String} (apart : first ≠ second)
    (check checkToo : Value → Value → Except Fault Verdict) :
    Rule.ofCheck first check ≠ Rule.ofCheck second checkToo :=
  fun same => apart (Rule.Form.object.inj (congrArg Rule.form same))

theorem mem_issuerRules {rule : Rule} {issuer : Option String} :
    rule ∈ issuerRules issuer ↔ ∃ s, issuer = some s ∧ s ≠ "" ∧ rule = Rule.issuer s := by
  cases issuer with
  | none => simp [issuerRules]
  | some s => by_cases empty : s = "" <;> simp [issuerRules, empty]

theorem mem_profileRules {rule : Rule} {allowed : List Text} :
    rule ∈ profileRules allowed ↔ allowed ≠ [] ∧ rule = Rule.profiles allowed := by
  by_cases anyone : allowed = [] <;> simp [profileRules, anyone]

theorem mem_rules {rule : Rule} : rule ∈ c.rules ↔
    ((rule = Rule.required ["iss", "sub"] ∨ rule = Rule.expiry) ∨
      ∃ s, c.issuer = some s ∧ s ≠ "" ∧ rule = Rule.issuer s) ∨
    (c.securityProfiles ≠ [] ∧ rule = Rule.profiles (c.securityProfiles.map .proper)) := by
  rw [rules_eq]
  simp only [List.mem_append, List.mem_singleton, mem_issuerRules, mem_profileRules, ne_eq,
    List.map_eq_nil_iff]

theorem isSet_iff {o : Option String} : isSet o = true ↔ ∃ s, o = some s ∧ s ≠ "" := by
  cases o <;> simp [isSet]

theorem issuer_mem_rules :
    (∃ issuer, Rule.issuer issuer ∈ c.rules) ↔ isSet c.issuer = true := by
  rw [isSet_iff]
  constructor
  · rintro ⟨issuer, member⟩
    obtain ((named | dated) | ⟨s, told, something, -⟩) | ⟨-, profiled⟩ := mem_rules.mp member
    · exact absurd named (ofCheck_ne (by decide) _ _)
    · exact absurd dated (ofCheck_ne (by decide) _ _)
    · exact ⟨s, told, something⟩
    · exact absurd profiled (ofCheck_ne (by decide) _ _)
  · rintro ⟨s, told, something⟩
    exact ⟨s, mem_rules.mpr (.inl (.inr ⟨s, told, something, rfl⟩))⟩

theorem profiles_mem_rules :
    (∃ allowed, Rule.profiles allowed ∈ c.rules) ↔ c.securityProfiles ≠ [] := by
  constructor
  · rintro ⟨allowed, member⟩
    obtain ((named | dated) | ⟨s, -, -, issued⟩) | ⟨some_listed, -⟩ := mem_rules.mp member
    · exact absurd named (ofCheck_ne (by decide) _ _)
    · exact absurd dated (ofCheck_ne (by decide) _ _)
    · exact absurd issued (ofCheck_ne (by decide) _ _)
    · exact some_listed
  · exact fun some_listed => ⟨_, mem_rules.mpr (.inr ⟨some_listed, rfl⟩)⟩

/-! What has been read -/

/-- Settings without blanks around them, read from an environment. What is optional is not set or
set to something, and the rules are those that are asked for. -/
structure Normal (env : Environment) (c : Config) : Prop where
  tokenUrl : Text.Bare c.tokenUrl.toList
  keyUrl : Text.Bare c.keyUrl.toList
  keyId : ∃ keyId, c.keyId = some keyId ∧ Text.Bare keyId.toList
  issuer : ∀ s, c.issuer = some s → Text.Bare s.toList
  certPath : ∀ s, c.certPath = some s → Text.Bare s.toList
  keyPath : ∀ s, c.keyPath = some s → Text.Bare s.toList
  keyPassword : ∀ s, c.keyPassword = some s → Text.Bare s.toList
  timeout : 1 ≤ c.timeout
  assertionLifetime : 1 ≤ c.assertionLifetime
  hasIdentity : c.hasIdentity = true ↔
    ¬ Text.Blank (env.text "CONNECTOR_CERT_PATH") ∧ ¬ Text.Blank (env.text "CONNECTOR_KEY_PATH")
  securityProfiles : ∀ p ∈ c.securityProfiles, Text.Bare p.toList ∧ ',' ∉ p.toList
  issuerRule : (∃ issuer, Rule.issuer issuer ∈ c.rules) ↔ ¬ Text.Blank (env.text "DAPS_ISSUER")
  profileRule : (∃ allowed, Rule.profiles allowed ∈ c.rules) ↔
    ∃ part ∈ (env.text "DAPS_SECURITY_PROFILES").splitOn ',', ¬ Text.Blank part

theorem bare_getD_setting? (there : (setting? env name).isSome = true) :
    Text.Bare ((setting? env name).getD "").toList := by
  obtain ⟨s, told⟩ := Option.isSome_iff_exists.mp there
  rw [told]
  exact bare_of_setting? told

theorem bare_keyId (env : Environment) :
    Text.Bare ((setting? env "DAPS_KEY_ID").getD defaultKeyId).toList := by
  cases told : setting? env "DAPS_KEY_ID" with
  | none => exact ⟨⟨'d', rfl, by decide⟩, ⟨'t', rfl, by decide⟩⟩
  | some s => exact bare_of_setting? told

theorem normal_of_ofEnvironment (read : ofEnvironment env = .ok c) : c.Normal env := by
  have identity := hasIdentity_iff read
  obtain ⟨present, timeout, lifetime, waits, lives, rfl⟩ := ofEnvironment_eq_ok read
  constructor
  case tokenUrl => exact bare_getD_setting? (present _ List.mem_cons_self)
  case keyUrl => exact bare_getD_setting? (present _ (List.mem_cons_of_mem _ List.mem_cons_self))
  case keyId => exact ⟨_, rfl, bare_keyId env⟩
  case issuer | certPath | keyPath | keyPassword => exact fun s told => bare_of_setting? told
  case timeout => exact seconds_positive (by decide) waits
  case assertionLifetime => exact seconds_positive (by decide) lives
  case hasIdentity => rw [identity, setting?_isSome_iff, setting?_isSome_iff]
  case securityProfiles =>
    simp only [timed]
    exact fun p => bare_of_mem_itemsOf
  case issuerRule => rw [issuer_mem_rules, timed, isSet_setting?, setting?_isSome_iff]
  case profileRule => rw [profiles_mem_rules, timed, itemsOf_ne_nil_iff]

/-- Environments that differ by the blanks around their texts come to the same settings or to the
same fault, and the settings of any environment are normal. -/
theorem ofEnvironment_normal (env : Environment) :
    (∀ other, env.SameButBlanks other → ofEnvironment env = ofEnvironment other) ∧
    ∀ c, ofEnvironment env = .ok c → c.Normal env :=
  ⟨fun _ same => same.ofEnvironment_eq, fun _ => normal_of_ofEnvironment⟩

def padded : Environment :=
  [("DAPS_TOKEN_URL", " t"), ("DAPS_KEY_URL", "k\n"), ("DAPS_KEY_ID", "\t"),
    ("DAPS_SECURITY_PROFILES", ", p ,")]

def unpadded : Environment :=
  [("DAPS_TOKEN_URL", "t"), ("DAPS_KEY_URL", "k"), ("DAPS_KEY_ID", ""),
    ("DAPS_SECURITY_PROFILES", ", p ,")]

theorem padded_sameButBlanks : padded.SameButBlanks unpadded := by
  have token : Text.Pads "t".toList " t".toList := ⟨[' '], [], by decide, by decide, rfl⟩
  have key : Text.Pads "k".toList "k\n".toList := ⟨[], ['\n'], by decide, by decide, rfl⟩
  have keyId : Text.Pads "".toList "\t".toList := ⟨['\t'], [], by decide, by decide, rfl⟩
  exact .cons token (.refl _) (.cons key (.refl _) (.cons keyId (.refl _) (.refl _)))

theorem padded_normal :
    ofEnvironment padded = ofEnvironment unpadded ∧
    ∃ c, ofEnvironment padded = .ok c ∧ c.Normal padded :=
  ⟨(ofEnvironment_normal padded).1 unpadded padded_sameButBlanks,
    _, rfl, (ofEnvironment_normal padded).2 _ rfl⟩

end Config

end TokenGate
