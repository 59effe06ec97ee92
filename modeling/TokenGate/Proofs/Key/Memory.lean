import Mathlib.Logic.Relation
import TokenGate.Proofs.Key.Serving

/-! What becomes of the memory of the key. Whoever uses it can do no more than drop the key and,
where there is none, fetch one; so a kept key is always that of the last fetch.
-/

set_option autoImplicit false

namespace TokenGate.KeySource

inductive Moves (s : KeySource) (m : KeyMemory) : KeyMemory → Prop where
  | forget : Moves s m m.forget
  | found {key : PublishedKey} : m.entry = none → s.Serves (s.script m.fetched) key →
      Moves s m ⟨some key, m.fetched + 1⟩
  | missed : m.entry = none → (∀ key, ¬ s.Serves (s.script m.fetched) key) →
      Moves s m ⟨none, m.fetched + 1⟩

abbrev Reaches (s : KeySource) : KeyMemory → KeyMemory → Prop := Relation.ReflTransGen (Moves s)

/-- A key is at hand: the kept one or, if none is kept, the one that the next fetch serves. -/
inductive Provides (s : KeySource) (m : KeyMemory) : PublishedKey → KeyMemory → Prop where
  | kept {key : PublishedKey} : m.entry = some key → Provides s m key m
  | fetched {key : PublishedKey} : m.entry = none → s.Serves (s.script m.fetched) key →
      Provides s m key ⟨some key, m.fetched + 1⟩

variable {s : KeySource} {m n : KeyMemory} {key : PublishedKey} {asked : Option Text}

theorem Provides.entry (provided : s.Provides m key n) : n.entry = some key := by
  cases provided with
  | kept held => exact held
  | fetched missing served => rfl

theorem Provides.reaches (provided : s.Provides m key n) : s.Reaches m n := by
  cases provided with
  | kept held => exact .refl
  | fetched missing served => exact .single (.found missing served)

theorem Provides.unique {other : PublishedKey} {o : KeyMemory} (first : s.Provides m key n)
    (second : s.Provides m other o) : key = other ∧ n = o := by
  cases first with
  | kept held =>
    cases second with
    | kept same =>
      rw [held] at same
      cases same
      exact ⟨rfl, rfl⟩
    | fetched missing _ =>
      rw [held] at missing
      cases missing
  | fetched missing served =>
    cases second with
    | kept held =>
      rw [missing] at held
      cases held
    | fetched _ again =>
      cases served.unique again
      exact ⟨rfl, rfl⟩

theorem Provides.current_eq (provided : s.Provides m key n) : s.current m = (.ok key, n) := by
  cases provided with
  | kept held => simp only [current, held]
  | fetched missing served =>
    simp only [current, missing, fetch, ofOutcome_eq_ok_iff.mpr served]

theorem current_cases (s : KeySource) (m : KeyMemory) :
    (∃ key n, s.Provides m key n ∧ s.current m = (.ok key, n)) ∨
    (∃ fault, m.entry = none ∧ s.ofOutcome (s.script m.fetched) = .error fault ∧
      s.current m = (.error fault, ⟨none, m.fetched + 1⟩)) := by
  cases held : m.entry with
  | some key =>
    have provided : s.Provides m key m := .kept held
    exact .inl ⟨key, m, provided, provided.current_eq⟩
  | none =>
    cases outcome : s.ofOutcome (s.script m.fetched) with
    | ok key =>
      have provided := Provides.fetched held (ofOutcome_eq_ok_iff.mp outcome)
      exact .inl ⟨key, _, provided, provided.current_eq⟩
    | error fault =>
      refine .inr ⟨fault, rfl, rfl, ?_⟩
      simp only [current, held, fetch, outcome]

theorem current_reaches (s : KeySource) (m : KeyMemory) : s.Reaches m (s.current m).2 := by
  rcases current_cases s m with ⟨key, n, provided, found⟩ | ⟨fault, missing, refused, failed⟩
  · rw [found]
    exact provided.reaches
  · rw [failed]
    refine .single (.missed missing ?_)
    intro key served
    rw [ofOutcome_eq_ok_iff.mpr served] at refused
    cases refused

theorem isForeign_of_unnamed (unnamed : s.keyId = none) : s.isForeign asked = false := by
  cases asked <;> simp [isForeign, unnamed]

theorem isForeign_eq_false_iff {k : Text} (configured : s.keyId = some k) :
    s.isForeign asked = false ↔ ∀ name, asked = some name → name = k := by
  cases asked <;> simp [isForeign, configured]

theorem lookup_eq_foreign (foreign : s.isForeign asked = true) :
    s.lookup asked m = (.error (.keyNotFound asked), m) := by
  rw [lookup, if_pos foreign]

/-- Apart from foreign names, the name asked for changes nothing but the verdict on the key. -/
theorem lookup_eq_bind (familiar : s.isForeign asked = false) :
    s.lookup asked m = ((s.current m).1.bind (named asked), (s.current m).2) := by
  rw [lookup, if_neg (Bool.eq_false_iff.mp familiar)]
  rcases s.current m with ⟨outcome, n⟩
  cases outcome <;> rfl

theorem lookup_eq_refused {fault : Fault} (familiar : s.isForeign asked = false)
    (missing : m.entry = none) (refused : s.ofOutcome (s.script m.fetched) = .error fault) :
    s.lookup asked m = (.error fault, ⟨none, m.fetched + 1⟩) := by
  rw [lookup_eq_bind familiar]
  simp only [current, missing, fetch, refused]
  rfl

theorem lookup_error_cases {fault : Fault} (failed : (s.lookup asked m).1 = .error fault) :
    fault = .keyNotFound asked ∨
    (s.isForeign asked = false ∧ m.entry = none ∧
      s.ofOutcome (s.script m.fetched) = .error fault) := by
  cases told : s.isForeign asked with
  | true =>
    rw [lookup_eq_foreign told] at failed
    cases failed
    exact .inl rfl
  | false =>
    rw [lookup_eq_bind told] at failed
    rcases current_cases s m with ⟨key, n, _, held⟩ | ⟨_, missing, refused, missed⟩
    · rw [held] at failed
      exact .inl (named_error failed)
    · rw [missed] at failed
      cases failed
      exact .inr ⟨rfl, missing, refused⟩

theorem lookup_reaches (s : KeySource) (asked : Option Text) (m : KeyMemory) :
    s.Reaches m (s.lookup asked m).2 := by
  cases told : s.isForeign asked with
  | true =>
    rw [lookup_eq_foreign told]
  | false =>
    rw [lookup_eq_bind told]
    exact current_reaches s m

theorem lookup_eq_ok_iff {found : PublishedKey} :
    s.lookup asked m = (.ok found, n) ↔
      s.isForeign asked = false ∧ s.Provides m found n ∧ found.Answers asked := by
  -- Names are compared twice: with the configured one, and with that of the key that is found.
  cases told : s.isForeign asked with
  | true => simp [lookup_eq_foreign told]
  | false =>
    rw [lookup_eq_bind told, Prod.mk.injEq]
    rcases current_cases s m with ⟨key, o, provided, held⟩ | ⟨fault, missing, refused, failed⟩
    · rw [held]
      simp only [Except.bind, named_eq_ok_iff, true_and]
      constructor
      · rintro ⟨⟨rfl, answers⟩, rfl⟩
        exact ⟨provided, answers⟩
      · rintro ⟨again, answers⟩
        obtain ⟨rfl, rfl⟩ := provided.unique again
        exact ⟨⟨rfl, answers⟩, rfl⟩
    · rw [failed]
      constructor
      · rintro ⟨impossible, _⟩
        cases impossible
      · rintro ⟨_, provided, _⟩
        rw [provided.current_eq] at failed
        cases failed

theorem current_fetched_le (s : KeySource) (m : KeyMemory) :
    (s.current m).2.fetched ≤ m.fetched + 1 := by
  rcases current_cases s m with ⟨key, n, provided, found⟩ | ⟨_, _, _, failed⟩
  · rw [found]
    cases provided with
    | kept held => exact Nat.le_succ m.fetched
    | fetched missing served => exact Nat.le_refl _
  · exact Nat.le_of_eq (by rw [failed])

theorem lookup_fetched_le (s : KeySource) (asked : Option Text) (m : KeyMemory) :
    (s.lookup asked m).2.fetched ≤ m.fetched + 1 := by
  cases told : s.isForeign asked with
  | true =>
    rw [lookup_eq_foreign told]
    exact Nat.le_succ m.fetched
  | false =>
    rw [lookup_eq_bind told]
    exact current_fetched_le s m

/-! The kept key -/

/-- A kept key was served by the last of all fetches, and the first `n` of them do not count. -/
structure KeptSince (s : KeySource) (n : Nat) (m : KeyMemory) : Prop where
  counted : n ≤ m.fetched
  served : ∀ key, m.entry = some key →
    ∃ i, n ≤ i ∧ m.fetched = i + 1 ∧ s.Serves (s.script i) key

theorem KeptSince.of_missing (missing : m.entry = none) : s.KeptSince m.fetched m := by
  refine ⟨Nat.le_refl _, ?_⟩
  intro key held
  rw [missing] at held
  cases held

theorem KeptSince.move {first : Nat} (kept : s.KeptSince first m) (moved : s.Moves m n) :
    s.KeptSince first n := by
  cases moved with
  | forget => exact ⟨kept.counted, fun _ impossible => by cases impossible⟩
  | found missing served =>
    -- The new key is kept under the number of the fetch that has just been made.
    refine ⟨Nat.le_succ_of_le kept.counted, ?_⟩
    intro key held
    cases held
    exact ⟨m.fetched, kept.counted, rfl, served⟩
  | missed missing barren =>
    exact ⟨Nat.le_succ_of_le kept.counted, fun _ impossible => by cases impossible⟩

theorem KeptSince.reaches {first : Nat} (kept : s.KeptSince first m) (reached : s.Reaches m n) :
    s.KeptSince first n := by
  induction reached with
  | refl => exact kept
  | tail _ moved ih => exact ih.move moved

theorem Reaches.keptSince (reached : s.Reaches .empty m) : s.KeptSince 0 m :=
  (KeptSince.of_missing (m := .empty) rfl).reaches reached

/-- The key of the last one among the first `n` fetches that served a key at all. -/
def LastServed (s : KeySource) (n : Nat) (key : PublishedKey) : Prop :=
  ∃ i < n, s.Serves (s.script i) key ∧
    ∀ j, i < j → j < n → ∀ other, ¬ s.Serves (s.script j) other

def ServedBetween (s : KeySource) (first last : Nat) (key : PublishedKey) : Prop :=
  ∃ i, first ≤ i ∧ i < last ∧ s.Serves (s.script i) key

theorem KeptSince.lastServed {first : Nat} (kept : s.KeptSince first m)
    (held : m.entry = some key) : s.LastServed m.fetched key := by
  obtain ⟨i, _, last, served⟩ := kept.served key held
  refine ⟨i, by omega, served, ?_⟩
  -- There is no fetch between the last one and the end.
  intro j later earlier
  omega

theorem KeptSince.servedBetween {first : Nat} (kept : s.KeptSince first m)
    (held : m.entry = some key) : s.ServedBetween first m.fetched key := by
  obtain ⟨i, notBefore, last, served⟩ := kept.served key held
  exact ⟨i, notBefore, by omega, served⟩

/-- No fetch at all comes after the one that served a kept key. -/
theorem KeptSince.servedFrom {first g : Nat} (kept : s.KeptSince first m)
    (held : m.entry = some key) (made : g < m.fetched) : s.ServedBetween g m.fetched key := by
  obtain ⟨i, _, last, served⟩ := kept.served key held
  exact ⟨i, by omega, by omega, served⟩

theorem Reaches.fetched_le (reached : s.Reaches m n) : m.fetched ≤ n.fetched := by
  induction reached with
  | refl => exact Nat.le_refl _
  | tail _ moved ih =>
    cases moved with
    | forget => exact ih
    | found | missed => exact Nat.le_succ_of_le ih

/-- Where all fetches come to the same, the memory does not show in what is looked up. -/
theorem KeptSince.current_eq {first : Nat} {o : Outcome} (kept : s.KeptSince first m)
    (constant : ∀ i, s.script i = o) : (s.current m).1 = s.ofOutcome o := by
  cases held : m.entry with
  | some key =>
    obtain ⟨i, _, _, served⟩ := kept.served key held
    rw [constant i] at served
    rw [(Provides.kept held).current_eq, ofOutcome_eq_ok_iff.mpr served]
  | none =>
    simp only [current, held, fetch, constant]
    cases s.ofOutcome o <;> rfl

theorem KeptSince.lookup_eq {first second : Nat} {o : Outcome} (here : s.KeptSince first m)
    (there : s.KeptSince second n) (constant : ∀ i, s.script i = o) (asked : Option Text) :
    (s.lookup asked m).1 = (s.lookup asked n).1 := by
  cases told : s.isForeign asked with
  | true => rw [lookup_eq_foreign told, lookup_eq_foreign told]
  | false =>
    rw [lookup_eq_bind told, lookup_eq_bind told]
    simp only [here.current_eq constant, there.current_eq constant]

end TokenGate.KeySource
