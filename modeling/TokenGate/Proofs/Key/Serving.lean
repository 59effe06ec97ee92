import TokenGate.Key.Cache

/-! Which key the outcome of a fetch gives: the one of the first object in the key set that may be
taken for the wanted key, and no other one.
-/

set_option autoImplicit false

namespace TokenGate

namespace KeySet

/-- An object that may be taken for the wanted key; any one may if none is wanted by name. -/
def Selectable (wanted : Option Text) (ms : Members) : Prop :=
  ∀ kid, wanted = some kid → Members.get? ms "kid" = some (.str kid)

def Gives (wanted : Option Text) (entries : List Value) (key : PublishedKey) : Prop :=
  ∃ before ms after, entries = before ++ .object ms :: after ∧
    (∀ other, Value.object other ∈ before → ¬ Selectable wanted other) ∧
    Selectable wanted ms ∧ PublishedKey.ofMembers ms = .ok key

@[simp] theorem member_eq_str_iff {ms : Members} {name s : Text} :
    PublishedKey.member ms name = .str s ↔ Members.get? ms name = some (.str s) := by
  simp [PublishedKey.member]

theorem matchesName_iff {wanted : Option Text} {ms : Members} :
    matchesName wanted ms = true ↔ Selectable wanted ms := by
  cases wanted with
  | none => simp [matchesName, Selectable]
  | some kid => simp [matchesName, Selectable]

theorem parse_eq_ok_iff {ms : Members} {key : PublishedKey} :
    parse ms = .ok key ↔ PublishedKey.ofMembers ms = .ok key := by
  unfold parse
  split <;> simp_all

section

variable {wanted : Option Text} {items : List Value} {ms : Members} {key : PublishedKey}

def Settles (wanted : Option Text) (items : List Value) (ms : Members) : Prop :=
  ∃ before after, items = before ++ .object ms :: after ∧
    (∀ other, Value.object other ∈ before → ¬ Selectable wanted other) ∧ Selectable wanted ms

theorem choose_passed {entry : Value} (barred : ∀ ms, entry = .object ms → ¬ Selectable wanted ms) :
    choose wanted (entry :: items) = choose wanted items := by
  cases entry with
  | object ms => rw [choose, if_neg fun found => barred ms rfl (matchesName_iff.mp found)]
  | null | bool _ | int _ | float _ | str _ | list _ => rw [choose]; simp

/-- Entries that may not be taken do not count. -/
theorem choose_append {before : List Value}
    (barred : ∀ other, Value.object other ∈ before → ¬ Selectable wanted other) :
    choose wanted (before ++ items) = choose wanted items := by
  induction before with
  | nil => rfl
  | cons entry rest ih =>
    have first : ∀ ms, entry = .object ms → ¬ Selectable wanted ms :=
      fun ms same => barred ms (same ▸ List.mem_cons_self)
    rw [List.cons_append, choose_passed first]
    exact ih fun other member => barred other (List.mem_cons_of_mem entry member)

theorem Settles.choose_eq (settles : Settles wanted items ms) :
    choose wanted items = parse ms := by
  obtain ⟨before, after, rfl, barred, selected⟩ := settles
  rw [choose_append barred, choose, if_pos (matchesName_iff.mpr selected)]

theorem settles_or_barred (wanted : Option Text) (items : List Value) :
    (∃ ms, Settles wanted items ms) ∨
      ∀ ms, Value.object ms ∈ items → ¬ Selectable wanted ms := by
  induction items with
  | nil => exact .inr (by simp)
  | cons entry rest ih =>
    -- The first entry settles it, or else it is one more that stands in front.
    by_cases first : ∃ ms, entry = .object ms ∧ Selectable wanted ms
    · obtain ⟨ms, rfl, selected⟩ := first
      exact .inl ⟨ms, [], rest, rfl, by simp, selected⟩
    · have barred : ∀ ms, entry = .object ms → ¬ Selectable wanted ms :=
        fun ms same selected => first ⟨ms, same, selected⟩
      have grown : ∀ before, (∀ ms, Value.object ms ∈ before → ¬ Selectable wanted ms) →
          ∀ ms, Value.object ms ∈ entry :: before → ¬ Selectable wanted ms := by
        intro before others ms member
        rcases List.mem_cons.mp member with same | member
        · exact barred ms same.symm
        · exact others ms member
      rcases ih with ⟨ms, before, after, rfl, others, selected⟩ | others
      · exact .inl ⟨ms, entry :: before, after, rfl, grown before others, selected⟩
      · exact .inr (grown rest others)

theorem choose_eq_notFound
    (barred : ∀ ms, Value.object ms ∈ items → ¬ Selectable wanted ms) :
    choose wanted items = .error (.keyNotFound wanted) := by
  rw [← List.append_nil items, choose_append barred]
  rfl

theorem gives_iff :
    Gives wanted items key ↔
      ∃ ms, Settles wanted items ms ∧ PublishedKey.ofMembers ms = .ok key := by
  constructor
  · rintro ⟨before, ms, after, split, barred, selected, parsed⟩
    exact ⟨ms, ⟨before, after, split, barred, selected⟩, parsed⟩
  · rintro ⟨ms, ⟨before, after, split, barred, selected⟩, parsed⟩
    exact ⟨before, ms, after, split, barred, selected, parsed⟩

theorem choose_eq_ok_iff : choose wanted items = .ok key ↔ Gives wanted items key := by
  rw [gives_iff]
  constructor
  · intro chosen
    rcases settles_or_barred wanted items with ⟨ms, settles⟩ | barred
    · rw [settles.choose_eq] at chosen
      exact ⟨ms, settles, parse_eq_ok_iff.mp chosen⟩
    · rw [choose_eq_notFound barred] at chosen
      cases chosen
  · rintro ⟨ms, settles, parsed⟩
    rw [settles.choose_eq, parse_eq_ok_iff.mpr parsed]

end

theorem select_eq_ok_iff {wanted : Option Text} {document : Members} {key : PublishedKey} :
    select wanted document = .ok key ↔
      ∃ entries, Members.get? document "keys" = some (.list entries) ∧
        Gives wanted entries key := by
  -- Whatever is no list counts as an empty one or ends in a fault.
  have nothing : choose wanted [] ≠ .ok key := by simp [choose]
  simp only [← choose_eq_ok_iff, select, bind, Except.bind]
  cases found : Members.get? document "keys" with
  | none => simpa [entries, found] using nothing
  | some v =>
    cases v with
    | list vs => simp [entries, found]
    | null | str _ | object _ => simpa [entries, found, Value.isTruthy] using nothing
    | bool _ | int _ | float _ =>
      simp only [entries, found]
      split <;> split at * <;> simp_all

end KeySet

namespace PublishedKey

theorem ofMembers_kid {ms : Members} {key : PublishedKey} (parsed : ofMembers ms = .ok key) :
    key.kid = member ms "kid" := by
  unfold ofMembers at parsed
  split at parsed
  · cases parsed
  · split at parsed
    · cases parsed
    · split at parsed
      · cases parsed
      · next algorithm _ =>
        cases made : keyOf algorithm ms with
        | error refusal =>
          rw [made] at parsed
          cases parsed
        | ok k =>
          rw [made] at parsed
          cases parsed
          rfl

def Answers (key : PublishedKey) (asked : Option Text) : Prop :=
  ∀ kid, asked = some kid → key.kid = .str kid

end PublishedKey

theorem toOption_eq_some_iff {ε α : Type} {x : Except ε α} {a : α} :
    x.toOption = some a ↔ x = .ok a := by
  cases x <;> simp [Except.toOption]

def Outcome.ofSecret (k : String) : Outcome :=
  .answered ⟨200, Utf8.ofString ("\x7b\"keys\":[\x7b\"kty\":\"oct\",\"k\":\"" ++ k ++
    "\"\x7d]\x7d"), none, none⟩

namespace KeySource

def Serves (s : KeySource) (o : Outcome) (key : PublishedKey) : Prop :=
  ∃ r document entries, o = .answered r ∧ r.isError = false ∧ r.json = .ok (.object document) ∧
    Members.get? document "keys" = some (.list entries) ∧ KeySet.Gives s.keyId entries key

theorem ofOutcome_eq_ok_iff {s : KeySource} {o : Outcome} {key : PublishedKey} :
    s.ofOutcome o = .ok key ↔ s.Serves o key := by
  constructor
  · intro given
    cases o with
    | failed => cases given
    | broken kind => cases given
    | answered r =>
      simp only [ofOutcome, ofResponse] at given
      split at given
      · cases given
      · next fine =>
        split at given <;> try contradiction
        next document read =>
          obtain ⟨entries, keys, gives⟩ := KeySet.select_eq_ok_iff.mp given
          exact ⟨r, document, entries, rfl, Bool.not_eq_true _ ▸ fine, read, keys, gives⟩
  · rintro ⟨r, document, entries, rfl, fine, read, keys, gives⟩
    simp only [ofOutcome, ofResponse, fine, read]
    exact KeySet.select_eq_ok_iff.mpr ⟨entries, keys, gives⟩

theorem Serves.unique {s : KeySource} {o : Outcome} {key other : PublishedKey}
    (first : s.Serves o key) (second : s.Serves o other) : key = other := by
  have here := ofOutcome_eq_ok_iff.mpr first
  rw [ofOutcome_eq_ok_iff.mpr second] at here
  cases here
  rfl

theorem Serves.kid {s : KeySource} {o : Outcome} {key : PublishedKey} (served : s.Serves o key)
    {kid : Text} (configured : s.keyId = some kid) : key.kid = .str kid := by
  obtain ⟨_, _, _, _, _, _, _, _, ms, _, _, _, selected, parsed⟩ := served
  rw [PublishedKey.ofMembers_kid parsed, PublishedKey.member, selected kid configured]
  rfl

theorem named_eq_ok_iff {asked : Option Text} {key found : PublishedKey} :
    named asked key = .ok found ↔ found = key ∧ key.Answers asked := by
  cases asked with
  | none =>
    constructor
    · intro given
      cases given
      exact ⟨rfl, fun _ impossible => by cases impossible⟩
    · rintro ⟨rfl, _⟩
      rfl
  | some kid =>
    have text : key.kid.isText kid = true ↔ key.Answers (some kid) := by
      simp [PublishedKey.Answers]
    rw [← text]
    simp only [named]
    split
    · next same => simp only [same, Except.ok.injEq, and_true, eq_comm]
    · next different => simp [different]

theorem named_error {asked : Option Text} {key : PublishedKey} {fault : Fault}
    (failed : named asked key = .error fault) : fault = .keyNotFound asked := by
  cases asked with
  | none => cases failed
  | some kid =>
    simp only [named] at failed
    split at failed
    · cases failed
    · cases failed
      rfl

end KeySource

end TokenGate
