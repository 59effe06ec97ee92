import TokenGate.Proofs.Key.Memory

/-! How often keys are fetched. All that can be done with the memory of the key is to look a key up
and to drop it. A fetched key stays until it is dropped, and so the fetches that served a key are at
most one more than the times a key was dropped.
-/

set_option autoImplicit false

namespace TokenGate

inductive KeyUse where
  | lookup (asked : Option Text)
  | forget
  deriving Repr, DecidableEq

namespace KeySource

def use (s : KeySource) (m : KeyMemory) : KeyUse → KeyMemory
  | .lookup asked => (s.lookup asked m).2
  | .forget => m.forget

def useAll (s : KeySource) (m : KeyMemory) (uses : List KeyUse) : KeyMemory :=
  uses.foldl s.use m

/-- How many of the first `n` fetches served a key. -/
def yield (s : KeySource) (n : Nat) : Nat :=
  (List.range n).countP fun i => (s.ofOutcome (s.script i)).isOk

/-- A use that is refused before the memory is looked at, or that has nothing to do for it. -/
def IsIdle (s : KeySource) : KeyUse → Prop
  | .lookup asked => s.isForeign asked = true
  | .forget => True

/-- How sparing uses of the memory are, from an unused one on. -/
structure Thrifty (s : KeySource) (uses : List KeyUse) : Prop where
  /-- A kept key stays and is the one that is found, until it is dropped. -/
  kept : ∀ before between after key, uses = before ++ between ++ after →
    (s.useAll .empty before).entry = some key → KeyUse.forget ∉ between →
    s.useAll .empty (before ++ between) = s.useAll .empty before ∧
    ∀ asked found, (s.lookup asked (s.useAll .empty (before ++ between))).1 = .ok found →
      found = key
  /-- A missing key is missing until it is needed. -/
  idle : ∀ before between after, uses = before ++ between ++ after →
    (s.useAll .empty before).entry = none → (∀ use ∈ between, s.IsIdle use) →
    s.useAll .empty (before ++ between) = s.useAll .empty before
  /-- It is fetched then, once, and what comes of the fetch is kept. -/
  fetched : ∀ before asked after, uses = before ++ .lookup asked :: after →
    s.isForeign asked = false → (s.useAll .empty before).entry = none →
    s.useAll .empty (before ++ [.lookup asked]) =
      ⟨(s.ofOutcome (s.script (s.useAll .empty before).fetched)).toOption,
        (s.useAll .empty before).fetched + 1⟩
  yielded : s.yield (s.useAll .empty uses).fetched ≤ 1 + uses.count .forget

variable {s : KeySource} {m : KeyMemory} {key : PublishedKey} {asked : Option Text}

@[simp] theorem useAll_nil : s.useAll m [] = m := rfl

@[simp] theorem useAll_cons (use : KeyUse) (rest : List KeyUse) :
    s.useAll m (use :: rest) = s.useAll (s.use m use) rest := rfl

@[simp] theorem useAll_append (first second : List KeyUse) :
    s.useAll m (first ++ second) = s.useAll (s.useAll m first) second :=
  List.foldl_append

theorem lookup_of_kept (held : m.entry = some key) : (s.lookup asked m).2 = m := by
  cases told : s.isForeign asked with
  | true => rw [lookup_eq_foreign told]
  | false => rw [lookup_eq_bind told, (Provides.kept held).current_eq]

theorem lookup_of_missing (familiar : s.isForeign asked = false) (missing : m.entry = none) :
    (s.lookup asked m).2 =
      ⟨(s.ofOutcome (s.script m.fetched)).toOption, m.fetched + 1⟩ := by
  rw [lookup_eq_bind familiar]
  cases outcome : s.ofOutcome (s.script m.fetched) with
  | ok key => simp only [current, missing, fetch, outcome, Except.toOption]
  | error fault => simp only [current, missing, fetch, outcome, Except.toOption]

theorem found_of_kept (held : m.entry = some key) {found : PublishedKey}
    (looked : (s.lookup asked m).1 = .ok found) : found = key := by
  have answer : s.lookup asked m = (.ok found, m) := Prod.ext looked (lookup_of_kept held)
  obtain ⟨_, provided, _⟩ := lookup_eq_ok_iff.mp answer
  exact (provided.unique (.kept held)).1

theorem useAll_of_kept (held : m.entry = some key) {uses : List KeyUse}
    (undropped : KeyUse.forget ∉ uses) : s.useAll m uses = m := by
  induction uses with
  | nil => rfl
  | cons use rest ih =>
    rw [List.mem_cons, not_or] at undropped
    obtain ⟨first, later⟩ := undropped
    cases use with
    | forget => exact absurd rfl first
    | lookup asked =>
      rw [useAll_cons, use, lookup_of_kept held]
      exact ih later

theorem useAll_of_idle (missing : m.entry = none) {uses : List KeyUse}
    (idle : ∀ use ∈ uses, s.IsIdle use) : s.useAll m uses = m := by
  induction uses with
  | nil => rfl
  | cons use rest ih =>
    have unmoved : s.use m use = m := by
      have first := idle use List.mem_cons_self
      cases use with
      | lookup asked => rw [KeySource.use, lookup_eq_foreign first]
      | forget =>
        -- There is nothing to drop.
        obtain ⟨_, _⟩ := m
        cases missing
        rfl
    rw [useAll_cons, unmoved]
    exact ih fun use member => idle use (List.mem_cons_of_mem _ member)

/-! The number of fetches that serve a key -/

theorem yield_succ (n : Nat) :
    s.yield (n + 1) = s.yield n + (if (s.ofOutcome (s.script n)).isOk then 1 else 0) := by
  simp [yield, List.range_succ, List.countP_append, List.countP_singleton]

/-- The fetches that served a key, and one more if a key is still to be fetched. -/
def due (s : KeySource) (m : KeyMemory) : Nat :=
  s.yield m.fetched + (if m.entry.isNone then 1 else 0)

theorem yield_le_due : s.yield m.fetched ≤ s.due m := Nat.le_add_right _ _

/-- A fetch that serves a key is paid for by the key that was missing, so that only the dropping of
a key can make another one due. -/
theorem due_use_le (use : KeyUse) :
    s.due (s.use m use) ≤ s.due m + (if use = .forget then 1 else 0) := by
  cases use with
  | forget =>
    have dropped : s.due m.forget = s.yield m.fetched + 1 := rfl
    have before : s.yield m.fetched ≤ s.due m := yield_le_due
    rw [KeySource.use, dropped, if_pos rfl]
    omega
  | lookup asked =>
    rw [KeySource.use]
    cases told : s.isForeign asked with
    | true =>
      rw [lookup_eq_foreign told]
      exact Nat.le_add_right _ _
    | false =>
      cases held : m.entry with
      | some key =>
        rw [lookup_of_kept held]
        exact Nat.le_add_right _ _
      | none =>
        rw [lookup_of_missing told held]
        -- Either the yield grows by one and no key is missing any more, or nothing changes.
        cases outcome : s.ofOutcome (s.script m.fetched) with
        | ok key =>
          simp [due, yield_succ, held, outcome, Except.toOption, Except.isOk, Except.toBool]
        | error fault =>
          simp [due, yield_succ, held, outcome, Except.toOption, Except.isOk, Except.toBool]

theorem due_useAll_le (uses : List KeyUse) :
    s.due (s.useAll m uses) ≤ s.due m + uses.count .forget := by
  induction uses generalizing m with
  | nil => exact Nat.le_refl _
  | cons use rest ih =>
    have first := due_use_le (s := s) (m := m) use
    have later := ih (m := s.use m use)
    rw [useAll_cons, List.count_cons]
    simp only [beq_iff_eq]
    omega

theorem thrifty (s : KeySource) (uses : List KeyUse) : s.Thrifty uses where
  kept before between after key _ held undropped := by
    have unmoved := useAll_of_kept (s := s) held undropped
    rw [useAll_append, unmoved]
    exact ⟨rfl, fun asked found looked => found_of_kept held looked⟩
  idle before between after _ missing idle := by
    rw [useAll_append, useAll_of_idle missing idle]
  fetched before asked after _ familiar missing := by
    rw [useAll_append, useAll_cons, useAll_nil, use, lookup_of_missing familiar missing]
  yielded := by
    have unused : s.due .empty = 1 := rfl
    have bounded := due_useAll_le (s := s) (m := .empty) uses
    rw [unused] at bounded
    exact Nat.le_trans yield_le_due bounded

end KeySource

end TokenGate
