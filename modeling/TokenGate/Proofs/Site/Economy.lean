import TokenGate.Proofs.Connector.History
import TokenGate.Proofs.Key.Economy
import TokenGate.Proofs.Site.Basic

/-! What work at a site costs in fetches. Whatever connectors do, the memory of the key that they
share sees look-ups and droppings only, one after another, and all of these are sparing.
-/

set_option autoImplicit false

namespace TokenGate

namespace Validator

def uses (v : Validator) (token : List Char) (m : KeyMemory) : List KeyUse :=
  let kid := Token.keyName? token
  if v.keys.isForeign kid then []
  else match (v.attempt token kid m).1 with
    | .wrongSignature => [.lookup kid, .forget, .lookup kid]
    | .claims _ | .failed _ => [.lookup kid]

variable {v : Validator} {m : KeyMemory}

theorem lastAttempt_memory (token : List Char) (kid : Option Text) :
    (v.lastAttempt token kid m).2 = (v.keys.lookup kid m).2 := by
  rw [← attempt_memory token, lastAttempt]
  rcases v.attempt token kid m with ⟨_ | _ | _, _⟩ <;> rfl

theorem decodeClaims_memory (token : List Char) :
    (v.decodeClaims token m).2 = v.keys.useAll m (v.uses token m) := by
  cases told : v.keys.isForeign (Token.keyName? token) with
  | true => simp only [decodeClaims, uses, told, if_true, KeySource.useAll_nil]
  | false =>
    have looked := attempt_memory (v := v) (m := m) token (Token.keyName? token)
    simp only [decodeClaims, uses, told, Bool.false_eq_true, if_false]
    rcases attempted : v.attempt token (Token.keyName? token) m with ⟨outcome, n⟩
    rw [attempted] at looked
    cases outcome with
    | claims ms | failed fault => exact looked
    | wrongSignature =>
      -- The second look-up goes on from where the first one ended, less the key.
      have again := lastAttempt_memory (v := v) (m := n.forget) token (Token.keyName? token)
      simp only [KeySource.useAll_cons, KeySource.useAll_nil, KeySource.use, ← looked]
      exact again

theorem validate_memory (now : Value) (token : List Char) :
    (v.validate now token m).2 = (v.decodeClaims token m).2 := by
  rw [validate]
  rcases v.decodeClaims token m with ⟨_ | _, _⟩ <;> rfl

end Validator

namespace TokenCache

def uses (keys : KeySource) (algorithms : List String) (token : Option Text) (m : KeyMemory) :
    List KeyUse :=
  match token with
  | none => []
  | some token =>
    match (keys.lookup none m).1 with
    | .error _ => [.lookup none]
    | .ok key =>
      match Token.decodeText algorithms key.key token with
      | .ok _ | .error (.crash _) => [.lookup none]
      | .error _ => [.lookup none, .forget]

theorem isFresh_memory (keys : KeySource) (algorithms : List String) (now : Value)
    (token : Option Text) (m : KeyMemory) :
    (isFresh keys algorithms now token m).2 = keys.useAll m (uses keys algorithms token m) := by
  cases token with
  | none => rfl
  | some token =>
    rw [isFresh, uses]
    rcases looked : keys.lookup none m with ⟨outcome, n⟩
    have left : n = keys.useAll m [.lookup none] := (congrArg Prod.snd looked).symm
    cases outcome with
    | error fault => exact left
    | ok key =>
      simp only [judge]
      cases Token.decodeText algorithms key.key token with
      | ok claims => exact left
      | error refusal =>
        -- A key is dropped on every refusal but that of the key itself.
        cases refusal with
        | crash kind => exact left
        | invalid | wrongSignature => exact congrArg KeyMemory.forget left

end TokenCache

namespace Connector

def uses (c : Connector) (s : State) : Operation → List KeyUse
  | .findKey kid => [.lookup kid]
  | .dropKey => [.forget]
  | .decode token | .validate token => c.validator.uses token.toList s.provider.keys
  | .provide | .currentToken =>
    TokenCache.uses c.provider.keys c.provider.algorithms s.provider.token s.provider.keys
  | .isSpareFresh => TokenCache.uses c.provider.keys c.provider.algorithms s.spare s.provider.keys
  | .setClock _ | .validateClaims _ | .keptToken | .dropToken | .acquire _ | .setSpare _
  | .spareToken => []

/-- An operation does to the memory what its uses do. -/
theorem step_memory {c : Connector} (shared : c.Shares) (s : State) (op : Operation) :
    (c.step s op).2.provider.keys = c.validator.keys.useAll s.provider.keys (c.uses s op) := by
  cases op with
  | findKey kid => rfl
  | dropKey => rfl
  | decode token => exact Validator.decodeClaims_memory token.toList
  | validate token =>
    exact (Validator.validate_memory s.now token.toList).trans
      (Validator.decodeClaims_memory token.toList)
  | provide | currentToken =>
    rw [← shared]
    exact (c.provider.provide_keys s.now s.provider).trans (TokenCache.isFresh_memory ..)
  | isSpareFresh =>
    rw [← shared]
    exact TokenCache.isFresh_memory ..
  | acquire endpoint => simp only [step, onProvider, TokenSource.acquire_keys, uses]; rfl
  -- The others leave the memory as it is.
  | setClock | validateClaims | keptToken | dropToken | setSpare | spareToken => rfl

end Connector

namespace Site

variable {ι : Type}

theorem shares (site : Site ι) (i : ι) : (site.member i).Shares :=
  (site.provided i).trans (site.validated i).symm

variable [DecidableEq ι]

def uses (site : Site ι) : State ι → List (ι × Connector.Operation) → List KeyUse
  | _, [] => []
  | s, (i, op) :: rest =>
    (site.member i).uses (s.seenBy i) op ++ site.uses (site.event s i op).after rest

theorem event_memory (site : Site ι) (s : State ι) (i : ι) (op : Connector.Operation) :
    (site.event s i op).after.keys =
      site.keys.useAll s.keys ((site.member i).uses (s.seenBy i) op) := by
  rw [← site.validated i]
  exact Connector.step_memory (site.shares i) (s.seenBy i) op

theorem reached_memory (site : Site ι) (s : State ι) (work : List (ι × Connector.Operation)) :
    (site.reached s work).keys = site.keys.useAll s.keys (site.uses s work) := by
  induction work generalizing s with
  | nil => rfl
  | cons turn rest ih => rw [reached, uses, ih, event_memory, KeySource.useAll_append]

/-- Work at a site comes down to uses of the memory that are sparing, from an unused one on. A
look-up makes one fetch at most, and one under a name other than the configured one makes none. -/
theorem fetches_spared (site : Site ι) {s : State ι} (unused : s.keys = .empty)
    (work : List (ι × Connector.Operation)) :
    (site.reached s work).keys = site.keys.useAll .empty (site.uses s work) ∧
    site.keys.Thrifty (site.uses s work) ∧
    ∀ asked m, (site.keys.lookup asked m).2.fetched ≤ m.fetched + 1 ∧
      ∀ kid k, asked = some kid → site.keys.keyId = some k → kid ≠ k →
        (site.keys.lookup asked m).2 = m := by
  refine ⟨?_, site.keys.thrifty _, ?_⟩
  · rw [reached_memory, unused]
  · intro asked m
    refine ⟨site.keys.lookup_fetched_le asked m, ?_⟩
    rintro kid k rfl configured other
    have foreign : site.keys.isForeign (some kid) = true := by
      simpa [KeySource.isForeign, configured] using other
    rw [KeySource.lookup_eq_foreign foreign]

def alternating : Site Bool :=
  ⟨Connector.rotating, fun _ => Connector.rotated, fun _ => rfl, fun _ => rfl⟩

/-- A token of the second key costs the first one, and nothing else does. -/
theorem second_key_spared :
    let work := [(true, .decode Connector.firstToken), (false, .decode Connector.firstToken),
      (false, .decode Connector.secondToken), (true, .decode Connector.secondToken)]
    let uses := alternating.uses start work
    uses = [.lookup none, .lookup none, .lookup none, .forget, .lookup none, .lookup none] ∧
      Connector.rotating.Thrifty uses ∧
      (alternating.reached start work).keys.fetched = 1 + uses.count .forget := by
  intro work uses
  have used : uses =
      [.lookup none, .lookup none, .lookup none, .forget, .lookup none, .lookup none] := by
    decide +kernel
  obtain ⟨memory, thrifty, _⟩ := alternating.fetches_spared (s := start) rfl work
  refine ⟨used, thrifty, ?_⟩
  rw [memory]
  change (Connector.rotating.useAll .empty uses).fetched = 1 + uses.count .forget
  rw [used]
  decide +kernel

end Site

end TokenGate
