import TokenGate.Proofs.Key.Memory
import TokenGate.Proofs.Stored.Reading

/-! Look-ups that break down. Most of what a fetch can come to is a key or a fault of looking up a
key; the outcomes that bring in a fault of another kind are listed here, and there are no more.
-/

set_option autoImplicit false

namespace TokenGate

namespace Value

def Nested : Value → Prop
  | .list _ | .object _ => True
  | _ => False

def Entryless : Value → Prop
  | .list _ | .object _ | .str _ => False
  | _ => True

end Value

namespace PublishedKey

/-- Objects that cannot even be judged, by the kind of fault that comes of it. -/
inductive Baffles (ms : Members) : Kind → Prop where
  /-- The algorithm is a list or an object, and not an empty one. -/
  | nested {v : Value} : (member ms "kty").isTruthy = true → Members.get? ms "alg" = some v →
      v.Nested → v.isTruthy = true → Baffles ms .type
  | unsigned : (member ms "kty").isTruthy = true →
      Members.get? ms "alg" = some (.str "none") → Baffles ms .notImplemented
  /-- A secret without the secret. -/
  | hollow : Members.get? ms "kty" = some (.str "oct") → Members.get? ms "k" = none →
      ((member ms "alg").isTruthy = false ∨ ∃ (name : String) (h : Hash),
        Members.get? ms "alg" = some (.str name) ∧ Algorithm.ofName? name = some (.mac h)) →
      Baffles ms .key

variable {ms : Members} {kind : Kind}

theorem isTruthy_member_iff {name : Text} :
    (member ms name).isTruthy = true ↔ ∃ v, Members.get? ms name = some v ∧ v.isTruthy = true := by
  unfold member
  cases Members.get? ms name with
  | none => simp [Value.ofOption, Value.isTruthy]
  | some v => simp [Value.ofOption]

theorem algorithmName_eq_ok_iff {name : String} :
    algorithmName ms = .ok name ↔
      (name ≠ "" ∧ Members.get? ms "alg" = some (.str name)) ∨
      ((member ms "alg").isTruthy = false ∧ defaultAlgorithm? ms = some name) := by
  have byDefault : algorithmName.fallback ms = .ok name ↔ defaultAlgorithm? ms = some name := by
    unfold algorithmName.fallback
    cases defaultAlgorithm? ms <;> simp
  rw [← KeySet.member_eq_str_iff]
  unfold algorithmName
  cases member ms "alg" with
  | list items => cases items <;> simp [byDefault, Value.isTruthy]
  | object members => cases members <;> simp [byDefault, Value.isTruthy]
  | str s =>
    by_cases empty : s = ""
    · subst empty
      simp [byDefault, Value.isTruthy]
    · simp [empty, Value.isTruthy]
      grind
  | null => simp [byDefault, Value.isTruthy]
  | bool b => cases b <;> simp [byDefault, Value.isTruthy]
  | int n => by_cases zero : n = 0 <;> simp [byDefault, Value.isTruthy, zero]
  | float x => cases zero : x.isZero <;> simp [byDefault, Value.isTruthy, zero]

theorem algorithmName_eq_crash_iff :
    algorithmName ms = .error (.crash kind) ↔
      kind = .type ∧ (member ms "alg").Nested ∧ (member ms "alg").isTruthy = true := by
  have byDefault : algorithmName.fallback ms ≠ .error (.crash kind) := by
    unfold algorithmName.fallback
    cases defaultAlgorithm? ms <;> simp
  unfold algorithmName
  cases member ms "alg" with
  | list items => cases items <;> simp [byDefault, Value.isTruthy, Value.Nested, eq_comm]
  | object members => cases members <;> simp [byDefault, Value.isTruthy, Value.Nested, eq_comm]
  | str s =>
    simp only [Value.Nested]
    cases s with
    | proper s => split <;> simp_all
    | halved t => simp [Value.isTruthy]
  | null | bool _ | int _ | float _ =>
    simp only [Value.Nested]
    split <;> simp [byDefault]

/-- Only a secret that is missing altogether is not judged. -/
theorem secret_eq_crash_iff :
    secret ms = .error (.crash kind) ↔
      kind = .key ∧ Members.get? ms "kty" = some (.str "oct") ∧ Members.get? ms "k" = none := by
  unfold secret
  cases family : hasFamily ms "oct" with
  | false =>
    have other : Members.get? ms "kty" ≠ some (.str "oct") := by
      intro same
      simp [hasFamily, member, same, Value.ofOption, Value.isText] at family
    simp [other]
  | true =>
    have same : Members.get? ms "kty" = some (.str "oct") := by
      simpa [hasFamily] using family
    cases Members.get? ms "k" with
    | none => simp [same, eq_comm]
    | some v =>
      dsimp only
      rcases octets? v with _ | _ | ⟨b, bytes⟩ <;> simp

theorem usable_ne_crash {key : Option Key} : usable key ≠ .error (.crash kind) := by
  cases key <;> simp [usable]

theorem keyOf_eq_crash_iff {algorithm : Algorithm} :
    keyOf algorithm ms = .error (.crash kind) ↔
      (algorithm = .unsigned ∧ kind = .notImplemented) ∨
      ((∃ h, algorithm = .mac h) ∧ secret ms = .error (.crash kind)) := by
  cases algorithm with
  | unsigned => simp [keyOf, eq_comm]
  | mac h => simp [keyOf]
  | rsa _ | salted _ | curve _ _ | edwards => simp [keyOf, usable_ne_crash]

theorem ofName?_eq_unsigned_iff {name : String} :
    Algorithm.ofName? name = some .unsigned ↔ name = "none" := by
  constructor
  · intro found
    have entry := mem_of_lookup found
    simpa [Algorithm.names] using entry
  · rintro rfl
    rfl

theorem defaultAlgorithm?_ne_none : defaultAlgorithm? ms ≠ some "none" := by
  unfold defaultAlgorithm?
  dsimp only
  split
  · decide
  · decide
  · split
    · intro found
      obtain ⟨name, _, listed⟩ := Option.bind_eq_some_iff.mp found
      have entry := mem_of_lookup listed
      simp [curveAlgorithms] at entry
    · decide
  · split <;> decide
  · simp

theorem ofMembers_eq_crash_iff : ofMembers ms = .error (.crash kind) ↔ Baffles ms kind := by
  constructor
  · intro crashed
    unfold ofMembers at crashed
    split at crashed
    · cases crashed
    · next known =>
      have family : (member ms "kty").isTruthy = true := by simpa using known
      split at crashed
      · next refusal refused =>
        cases crashed
        obtain ⟨rfl, nested, truthy⟩ := algorithmName_eq_crash_iff.mp refused
        obtain ⟨v, found, _⟩ := isTruthy_member_iff.mp truthy
        rw [member, found] at nested truthy
        exact .nested family found nested truthy
      · next name named =>
        split at crashed
        · cases crashed
        · next algorithm listed =>
          have failed : keyOf algorithm ms = .error (.crash kind) := by
            cases made : keyOf algorithm ms <;> simp_all [Except.map]
          -- No family has the unsigned algorithm by default, so that one was asked for by name.
          rcases keyOf_eq_crash_iff.mp failed with ⟨rfl, rfl⟩ | ⟨⟨h, rfl⟩, missing⟩
          · obtain rfl := ofName?_eq_unsigned_iff.mp listed
            rcases algorithmName_eq_ok_iff.mp named with ⟨_, found⟩ | ⟨_, default⟩
            · exact .unsigned family found
            · exact absurd default defaultAlgorithm?_ne_none
          · obtain ⟨rfl, secret, hollow⟩ := secret_eq_crash_iff.mp missing
            rcases algorithmName_eq_ok_iff.mp named with ⟨_, found⟩ | ⟨idle, _⟩
            · exact .hollow secret hollow (.inr ⟨name, h, found, listed⟩)
            · exact .hollow secret hollow (.inl idle)
  · intro baffles
    cases baffles with
    | nested family found nested truthy =>
      have refused : algorithmName ms = .error (.crash .type) := by
        rw [algorithmName_eq_crash_iff, member, found]
        exact ⟨rfl, nested, truthy⟩
      simp [ofMembers, family, refused]
    | unsigned family found =>
      have named : algorithmName ms = .ok "none" :=
        algorithmName_eq_ok_iff.mpr (.inl ⟨by decide, found⟩)
      simp [ofMembers, family, named, ofName?_eq_unsigned_iff.mpr, keyOf, Except.map]
    | hollow secret hollow choice =>
      have family : (member ms "kty").isTruthy = true :=
        isTruthy_member_iff.mpr ⟨_, secret, rfl⟩
      have missing := secret_eq_crash_iff.mpr ⟨rfl, secret, hollow⟩
      have named : ∃ name h, algorithmName ms = .ok name ∧
          Algorithm.ofName? name = some (.mac h) := by
        rcases choice with idle | ⟨name, h, found, listed⟩
        · refine ⟨"HS256", .sha256, algorithmName_eq_ok_iff.mpr (.inr ⟨idle, ?_⟩), rfl⟩
          simp [defaultAlgorithm?, member, secret, Value.ofOption]
        · refine ⟨name, h, algorithmName_eq_ok_iff.mpr (.inl ⟨?_, found⟩), listed⟩
          rintro rfl
          cases listed
      obtain ⟨name, h, named, listed⟩ := named
      simp [ofMembers, family, named, listed, keyOf, missing, Except.map]

end PublishedKey

namespace KeySet

variable {wanted : Option Text} {items : List Value} {document ms : Members} {kind : Kind}

theorem parse_eq_crash_iff :
    parse ms = .error (.crash kind) ↔ PublishedKey.Baffles ms kind := by
  rw [← PublishedKey.ofMembers_eq_crash_iff, parse]
  rcases PublishedKey.ofMembers ms with (_ | other) | key <;> simp

theorem choose_eq_crash_iff :
    choose wanted items = .error (.crash kind) ↔
      ∃ ms, Settles wanted items ms ∧ PublishedKey.Baffles ms kind := by
  constructor
  · intro crashed
    rcases settles_or_barred wanted items with ⟨ms, settles⟩ | barred
    · rw [settles.choose_eq] at crashed
      exact ⟨ms, settles, parse_eq_crash_iff.mp crashed⟩
    · rw [choose_eq_notFound barred] at crashed
      cases crashed
  · rintro ⟨ms, settles, baffles⟩
    rw [settles.choose_eq, parse_eq_crash_iff.mpr baffles]

theorem entries_eq_error_iff {fault : Fault} :
    entries document = .error fault ↔
      fault = .crash .type ∧
        ∃ v, Members.get? document "keys" = some v ∧ v.Entryless ∧ v.isTruthy = true := by
  unfold entries
  cases Members.get? document "keys" with
  | none => simp
  | some v =>
    cases v with
    | list _ | str _ | object _ => simp [Value.Entryless]
    | null => simp [Value.isTruthy]
    -- Only these have no entries, and count as none at all if they are false or zero.
    | bool _ | int _ | float _ =>
      simp only [Value.Entryless]
      split
      · next truthy =>
        constructor
        · intro failed
          cases failed
          exact ⟨rfl, _, rfl, trivial, truthy⟩
        · rintro ⟨rfl, _⟩
          rfl
      · next falsy => simp [falsy]

theorem entries_eq_ok {vs : List Value} (listed : entries document = .ok vs) :
    Members.get? document "keys" = some (.list vs) ∨ vs = [] := by
  unfold entries at listed
  split at listed
  · next found =>
    cases listed
    exact .inl found
  · cases listed
    exact .inr rfl
  · cases listed
    exact .inr rfl
  · split at listed
    · cases listed
    · cases listed
      exact .inr rfl
  · cases listed
    exact .inr rfl

theorem select_eq_crash_iff :
    select wanted document = .error (.crash kind) ↔
      (kind = .type ∧ ∃ v, Members.get? document "keys" = some v ∧ v.Entryless ∧
        v.isTruthy = true) ∨
      ∃ items ms, Members.get? document "keys" = some (.list items) ∧
        Settles wanted items ms ∧ PublishedKey.Baffles ms kind := by
  simp only [select, bind, Except.bind]
  constructor
  · intro crashed
    cases listed : entries document with
    | error fault =>
      rw [listed] at crashed
      cases crashed
      obtain ⟨same, entryless⟩ := entries_eq_error_iff.mp listed
      cases same
      exact .inl ⟨rfl, entryless⟩
    | ok items =>
      rw [listed] at crashed
      obtain ⟨ms, settles, baffles⟩ := choose_eq_crash_iff.mp crashed
      rcases entries_eq_ok listed with found | rfl
      · exact .inr ⟨items, ms, found, settles, baffles⟩
      · -- Whatever else counts as an empty list, in which nothing settles anything.
        obtain ⟨_, _, empty, _⟩ := settles
        simp at empty
  · rintro (⟨rfl, entryless⟩ | ⟨items, ms, found, settles, baffles⟩)
    · rw [entries_eq_error_iff.mpr ⟨rfl, entryless⟩]
    · have listed : entries document = .ok items := by rw [entries, found]
      rw [listed]
      exact choose_eq_crash_iff.mpr ⟨ms, settles, baffles⟩

theorem select_fault {fault : Fault} (failed : select wanted document = .error fault) :
    (∃ kind, fault = .crash kind) ∨ fault.isKeyRetrieval = true := by
  simp only [select, bind, Except.bind] at failed
  cases listed : entries document with
  | error other =>
    rw [listed] at failed
    cases failed
    exact .inl ⟨.type, (entries_eq_error_iff.mp listed).1⟩
  | ok items =>
    rw [listed] at failed
    change choose wanted items = _ at failed
    rcases settles_or_barred wanted items with ⟨ms, settles⟩ | barred
    · rw [settles.choose_eq, parse] at failed
      split at failed
      · cases failed
      · cases failed
        exact .inr rfl
      · cases failed
        exact .inl ⟨_, rfl⟩
    · rw [choose_eq_notFound barred] at failed
      cases failed
      exact .inr rfl

end KeySet

namespace KeySource

variable {s : KeySource} {m : KeyMemory} {asked : Option Text} {o : Outcome} {kind : Kind}

/-- The outcomes of a fetch that no verdict is made of, by the kind of fault that comes of them. -/
inductive Upsets (s : KeySource) : Outcome → Kind → Prop where
  /-- The call itself ended in a fault that calls are not expected to end in. -/
  | broken (kind : Kind) : Upsets s (.broken kind) kind
  /-- The encoding of the answer has characters that its reader breaks down on. -/
  | unprepared {r : Response} : r.isError = false →
      r.json = .error (.characters .broken) → Upsets s (.answered r) .runtime
  | tooDeep {r : Response} : r.isError = false → r.json = .error (.content .tooDeep) →
      Upsets s (.answered r) .recursion
  | entryless {r : Response} {document : Members} {v : Value} : r.isError = false →
      r.json = .ok (.object document) → Members.get? document "keys" = some v → v.Entryless →
      v.isTruthy = true → Upsets s (.answered r) .type
  | baffling {r : Response} {document ms : Members} {items : List Value} {kind : Kind} :
      r.isError = false → r.json = .ok (.object document) →
      Members.get? document "keys" = some (.list items) → KeySet.Settles s.keyId items ms →
      PublishedKey.Baffles ms kind → Upsets s (.answered r) kind

theorem ofOutcome_eq_crash_iff : s.ofOutcome o = .error (.crash kind) ↔ s.Upsets o kind := by
  constructor
  · intro crashed
    cases o with
    | failed => cases crashed
    | broken other =>
      cases crashed
      exact .broken kind
    | answered r =>
      -- The status is judged first, so that a refused answer breaks nothing down.
      simp only [ofOutcome, ofResponse] at crashed
      split at crashed
      · cases crashed
      · next fine =>
        have fine : r.isError = false := Bool.not_eq_true _ ▸ fine
        split at crashed
        · cases crashed
        · next read =>
          cases crashed
          exact .tooDeep fine read
        · next read =>
          cases crashed
          exact .unprepared fine read
        · cases crashed
        · next document read =>
          rcases KeySet.select_eq_crash_iff.mp crashed with
            ⟨rfl, v, found, entryless, truthy⟩ | ⟨items, ms, found, settles, baffles⟩
          · exact .entryless fine read found entryless truthy
          · exact .baffling fine read found settles baffles
        · cases crashed
  · intro upsets
    cases upsets with
    | broken => rfl
    | unprepared fine read | tooDeep fine read => simp [ofOutcome, ofResponse, fine, read]
    | entryless fine read found entryless truthy =>
      simp only [ofOutcome, ofResponse, fine, read]
      exact KeySet.select_eq_crash_iff.mpr (.inl ⟨rfl, _, found, entryless, truthy⟩)
    | baffling fine read found settles baffles =>
      simp only [ofOutcome, ofResponse, fine, read]
      exact KeySet.select_eq_crash_iff.mpr (.inr ⟨_, _, found, settles, baffles⟩)

theorem Upsets.not_serves {key : PublishedKey} (upsets : s.Upsets o kind) : ¬ s.Serves o key := by
  intro served
  have given := ofOutcome_eq_ok_iff.mpr served
  rw [ofOutcome_eq_crash_iff.mpr upsets] at given
  cases given

theorem ofOutcome_fault {fault : Fault} (failed : s.ofOutcome o = .error fault) :
    (∃ kind, fault = .crash kind) ∨ fault.isKeyRetrieval = true := by
  cases o with
  | failed =>
    cases failed
    exact .inr rfl
  | broken kind =>
    cases failed
    exact .inl ⟨kind, rfl⟩
  | answered r =>
    -- Status, encoding, content and keys are judged in this order.
    simp only [ofOutcome, ofResponse] at failed
    split at failed
    · cases failed
      exact .inr rfl
    · split at failed
      · cases failed
        exact .inr rfl
      · cases failed
        exact .inl ⟨_, rfl⟩
      · cases failed
        exact .inl ⟨_, rfl⟩
      · cases failed
        exact .inr rfl
      · exact KeySet.select_fault failed
      · cases failed
        exact .inr rfl

theorem lookup_eq_crash_iff :
    (s.lookup asked m).1 = .error (.crash kind) ↔
      s.isForeign asked = false ∧ m.entry = none ∧ s.Upsets (s.script m.fetched) kind := by
  rw [← ofOutcome_eq_crash_iff]
  constructor
  · intro crashed
    -- A name that is not found is no crash, so it was a fetch.
    rcases lookup_error_cases crashed with notFound | refused
    · cases notFound
    · exact refused
  · rintro ⟨familiar, missing, refused⟩
    rw [lookup_eq_refused familiar missing refused]

theorem lookup_fault {fault : Fault} (failed : (s.lookup asked m).1 = .error fault) :
    (∃ kind, fault = .crash kind) ∨ fault.isKeyRetrieval = true := by
  rcases lookup_error_cases failed with rfl | ⟨_, _, refused⟩
  · exact .inr rfl
  · exact ofOutcome_fault refused

theorem lookup_of_barren (familiar : s.isForeign asked = false) (missing : m.entry = none)
    (barren : ∀ key, ¬ s.Serves (s.script m.fetched) key) :
    (∃ fault, (s.lookup asked m).1 = .error fault) ∧
      (s.lookup asked m).2 = ⟨none, m.fetched + 1⟩ := by
  cases refused : s.ofOutcome (s.script m.fetched) with
  | ok key => exact absurd (ofOutcome_eq_ok_iff.mp refused) (barren key)
  | error fault =>
    rw [lookup_eq_refused familiar missing refused]
    exact ⟨⟨fault, rfl⟩, rfl⟩

theorem lookup_fetches (familiar : s.isForeign asked = false) (missing : m.entry = none) :
    (s.lookup asked m).2.fetched = m.fetched + 1 := by
  rw [lookup_eq_bind familiar]
  simp only [current, missing, fetch]
  cases s.ofOutcome (s.script m.fetched) <;> rfl

def hollowed : KeySource :=
  ⟨"", some "k1", 10, fun _ => .answered ⟨200,
    Utf8.ofString "\x7b\"keys\":[\x7b\"kid\":\"k1\",\"kty\":\"oct\"\x7d]\x7d", none, none⟩⟩

end KeySource

end TokenGate
