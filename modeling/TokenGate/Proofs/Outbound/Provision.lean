import TokenGate.Outbound.Provider
import TokenGate.Proofs.Key.Memory

/-! What the provider of the own token does to the memory of the key, which it shares with others:
it looks the key up, and drops it if the kept token does not verify.
-/

set_option autoImplicit false

namespace TokenGate

theorem TokenCache.judge_reaches (keys : KeySource) (algorithms : List String) (now : Value)
    (token : Text) (key : PublishedKey) (m : KeyMemory) :
    keys.Reaches m (judge algorithms now token key m).2 := by
  unfold judge
  split
  · exact .refl
  · exact .refl
  · exact .single .forget

theorem TokenCache.isFresh_reaches (keys : KeySource) (algorithms : List String) (now : Value)
    (token : Option Text) (m : KeyMemory) :
    keys.Reaches m (isFresh keys algorithms now token m).2 := by
  cases token with
  | none => exact .refl
  | some token =>
    have looked := keys.lookup_reaches none m
    rw [isFresh]
    split
    · next same =>
      rw [same] at looked
      exact looked
    · next same =>
      rw [same] at looked
      exact looked.trans (judge_reaches keys algorithms now token _ _)

theorem TokenCache.judge_fetched (algorithms : List String) (now : Value) (token : Text)
    (key : PublishedKey) (m : KeyMemory) :
    (judge algorithms now token key m).2.fetched = m.fetched := by
  unfold judge
  split <;> rfl

theorem TokenCache.isFresh_fetched_le (keys : KeySource) (algorithms : List String) (now : Value)
    (token : Option Text) (m : KeyMemory) :
    (isFresh keys algorithms now token m).2.fetched ≤ m.fetched + 1 := by
  cases token with
  | none => exact Nat.le_succ m.fetched
  | some token =>
    have looked := keys.lookup_fetched_le none m
    rw [isFresh]
    split
    · next same =>
      rw [same] at looked
      exact looked
    · next same =>
      rw [same] at looked
      rw [judge_fetched]
      exact looked

namespace TokenSource

def answer (source : TokenSource) (endpoint : String) (n : Nat) : Except Fault Text :=
  match source with
  | .prepared answers => answers n
  | .authority _ script => Acquirer.ofOutcome endpoint (script n)

variable {a : Acquirer} {script : Script} {now : Value} {endpoint : String} {s : ProviderState}

theorem acquire_of_unmade {fault : Fault} (unmade : a.request now endpoint = .error fault) :
    (authority a script).acquire now endpoint s = (.error fault, s) := by
  simp only [acquire, unmade]

theorem acquire_of_made {request : TokenRequest} (made : a.request now endpoint = .ok request) :
    (authority a script).acquire now endpoint s =
      (Acquirer.ofOutcome endpoint (script s.calls.length),
        { s with calls := .sent request :: s.calls }) := by
  simp only [acquire, made]

theorem acquire_cases (source : TokenSource) (now : Value) (endpoint : String)
    (s : ProviderState) :
    (∃ fault, source.acquire now endpoint s = (.error fault, s)) ∨
    ∃ call, source.acquire now endpoint s =
      (source.answer endpoint s.calls.length, { s with calls := call :: s.calls }) := by
  cases source with
  | prepared answers => exact .inr ⟨_, rfl⟩
  | authority a script =>
    cases requested : a.request now endpoint with
    | error fault => exact .inl ⟨fault, acquire_of_unmade requested⟩
    | ok request => exact .inr ⟨_, acquire_of_made requested⟩

theorem acquire_keys (source : TokenSource) (now : Value) (endpoint : String)
    (s : ProviderState) : (source.acquire now endpoint s).2.keys = s.keys := by
  rcases source.acquire_cases now endpoint s with ⟨_, unmade⟩ | ⟨_, made⟩
  · rw [unmade]
  · rw [made]

theorem acquire_token (source : TokenSource) (now : Value) (endpoint : String)
    (s : ProviderState) : (source.acquire now endpoint s).2.token = s.token := by
  rcases source.acquire_cases now endpoint s with ⟨_, unmade⟩ | ⟨_, made⟩
  · rw [unmade]
  · rw [made]

end TokenSource

namespace Provider

theorem renew_keys (p : Provider) (now : Value) (s : ProviderState) :
    (p.renew now s).2.keys = s.keys := by
  have asked := p.source.acquire_keys now p.tokenUrl s
  rw [renew]
  split
  all_goals
    next same =>
      rw [same] at asked
      exact asked

/-- Only the judgement of the kept token touches the memory of the key. -/
theorem provide_keys (p : Provider) (now : Value) (s : ProviderState) :
    (p.provide now s).2.keys =
      (TokenCache.isFresh p.keys p.algorithms now s.token s.keys).2 := by
  rw [provide]
  split
  · next same => rw [same]
  · next same => rw [same]
  · next same _ =>
    rw [same]
    exact p.renew_keys now _

theorem provide_reaches (p : Provider) (now : Value) (s : ProviderState) :
    p.keys.Reaches s.keys (p.provide now s).2.keys := by
  rw [provide_keys]
  exact TokenCache.isFresh_reaches p.keys p.algorithms now s.token s.keys

theorem provide_fetched_le (p : Provider) (now : Value) (s : ProviderState) :
    (p.provide now s).2.keys.fetched ≤ s.keys.fetched + 1 := by
  rw [provide_keys]
  exact TokenCache.isFresh_fetched_le p.keys p.algorithms now s.token s.keys

/-- What providing a token comes to, whatever it does to the memory of the key. -/
inductive Provided (p : Provider) (s : ProviderState) :
    Except Fault Text → ProviderState → Prop where
  /-- The kept token is still good. -/
  | kept {token : Text} {keys : KeyMemory} : s.token = some token →
      Provided p s (.ok token) { s with keys := keys }
  /-- A fault arises before any call is made. -/
  | uncalled {fault : Fault} {keys : KeyMemory} :
      Provided p s (.error fault) { s with keys := keys }
  | refused {fault : Fault} {keys : KeyMemory} {call : TokenCall} :
      p.source.answer p.tokenUrl s.calls.length = .error fault →
      Provided p s (.error fault) { s with keys := keys, calls := call :: s.calls }
  | issued {token : Text} {keys : KeyMemory} {call : TokenCall} :
      p.source.answer p.tokenUrl s.calls.length = .ok token →
      Provided p s (.ok token) ⟨keys, some token, call :: s.calls⟩

theorem renew_provided (p : Provider) (now : Value) (s : ProviderState) :
    p.Provided s (p.renew now s).1 (p.renew now s).2 := by
  rw [renew]
  rcases p.source.acquire_cases now p.tokenUrl s with ⟨fault, unmade⟩ | ⟨call, made⟩
  · rw [unmade]
    exact .uncalled
  · rw [made]
    cases answered : p.source.answer p.tokenUrl s.calls.length with
    | ok token => exact .issued answered
    | error fault => exact .refused answered

theorem Provided.of_keys {p : Provider} {s t : ProviderState} {m : KeyMemory}
    {outcome : Except Fault Text} (provided : p.Provided { s with keys := m } outcome t) :
    p.Provided s outcome t := by
  cases provided with
  | kept held => exact .kept held
  | uncalled => exact .uncalled
  | refused answered => exact .refused answered
  | issued answered => exact .issued answered

theorem provide_provided (p : Provider) (now : Value) (s : ProviderState) :
    p.Provided s (p.provide now s).1 (p.provide now s).2 := by
  rw [provide]
  split
  · exact .uncalled
  · next held _ => exact .kept held
  · -- The judgement of the kept token has changed no more than the memory of the key.
    exact (p.renew_provided now _).of_keys

variable {p : Provider} {s t : ProviderState} {outcome : Except Fault Text} {token : Text}

theorem Provided.token_of_ok (provided : p.Provided s (.ok token) t) : t.token = some token := by
  cases provided with
  | kept held => exact held
  | issued answered => rfl

theorem Provided.token_of_error {fault : Fault} (provided : p.Provided s (.error fault) t) :
    t.token = s.token := by
  cases provided with
  | uncalled => rfl
  | refused answered => rfl

theorem Provided.calls (provided : p.Provided s outcome t) :
    t.calls = s.calls ∨ ∃ call, t.calls = call :: s.calls := by
  cases provided with
  | kept held => exact .inl rfl
  | uncalled => exact .inl rfl
  | refused answered => exact .inr ⟨_, rfl⟩
  | issued answered => exact .inr ⟨_, rfl⟩

structure Issued (p : Provider) (s t : ProviderState) (token : Text) : Prop where
  called : ∃ call, t.calls = call :: s.calls
  answered : p.source.answer p.tokenUrl s.calls.length = .ok token

theorem Issued.unique {other : Text} (issued : p.Issued s t token)
    (again : p.Issued s t other) : token = other := by
  have same := again.answered
  rw [issued.answered] at same
  exact Except.ok.inj same

/-- A token that is issued is kept, and otherwise the kept token stays. -/
theorem Provided.token_cases (provided : p.Provided s outcome t) :
    (∃ token, p.Issued s t token ∧ t.token = some token) ∨
    ((∀ token, ¬ p.Issued s t token) ∧ t.token = s.token) := by
  cases provided with
  | issued answered => exact .inl ⟨_, ⟨⟨_, rfl⟩, answered⟩, rfl⟩
  | refused answered =>
    refine .inr ⟨?_, rfl⟩
    intro token issued
    have given := issued.answered
    rw [answered] at given
    cases given
  | kept held | uncalled =>
    -- Without a call nothing is issued.
    refine .inr ⟨?_, rfl⟩
    rintro token ⟨⟨call, more⟩, _⟩
    exact absurd more.symm (List.cons_ne_self call s.calls)

end Provider

end TokenGate
