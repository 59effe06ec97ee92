import TokenGate.Proofs.Site.Economy
import TokenGate.Proofs.Site.Insertion

/-! What others can do to the tokens of a connector. Nothing, where all fetches come to the same:
they can have the key dropped, but the same key is fetched again then, and a provider cannot tell.
-/

set_option autoImplicit false

namespace TokenGate

theorem TokenCache.isFresh_congr {keys : KeySource} {m n : KeyMemory}
    (same : (keys.lookup none m).1 = (keys.lookup none n).1) (algorithms : List String)
    (now : Value) (token : Option Text) :
    (isFresh keys algorithms now token m).1 = (isFresh keys algorithms now token n).1 := by
  cases token with
  | none => rfl
  | some token =>
    rw [isFresh, isFresh]
    rcases here : keys.lookup none m with ⟨outcome, m⟩
    rcases there : keys.lookup none n with ⟨other, n⟩
    rw [here, there] at same
    cases same
    cases outcome with
    | error fault => rfl
    | ok key =>
      -- The verdict on the token is made of the key alone.
      simp only [judge]
      cases Token.decodeText algorithms key.key token with
      | ok claims => rfl
      | error refusal => cases refusal <;> rfl

def ProviderState.shown {α : Type} (r : α × ProviderState) :
    α × Option Text × List TokenCall :=
  (r.1, r.2.token, r.2.calls)

open ProviderState (shown)

theorem TokenSource.shown_acquire (source : TokenSource) (now : Value) (endpoint : String)
    (m n : KeyMemory) (token : Option Text) (calls : List TokenCall) :
    shown (source.acquire now endpoint ⟨m, token, calls⟩) =
      shown (source.acquire now endpoint ⟨n, token, calls⟩) := by
  cases source with
  | prepared answers => rfl
  | authority acquirer script =>
    rw [acquire, acquire]
    cases acquirer.request now endpoint <;> rfl

namespace Provider

theorem shown_renew (p : Provider) (now : Value) (m n : KeyMemory) (token : Option Text)
    (calls : List TokenCall) :
    shown (p.renew now ⟨m, token, calls⟩) = shown (p.renew now ⟨n, token, calls⟩) := by
  have asked := p.source.shown_acquire now p.tokenUrl m n token calls
  rw [renew, renew]
  rcases here : p.source.acquire now p.tokenUrl ⟨m, token, calls⟩ with ⟨outcome, s⟩
  rcases there : p.source.acquire now p.tokenUrl ⟨n, token, calls⟩ with ⟨other, t⟩
  rw [here, there] at asked
  simp only [shown, Prod.mk.injEq] at asked
  obtain ⟨rfl, kept, made⟩ := asked
  cases outcome with
  | ok issued => simp only [shown, made]
  | error fault => simp only [shown, kept, made]

theorem shown_provide {p : Provider} {now : Value} {m n : KeyMemory} {token : Option Text}
    (same : (TokenCache.isFresh p.keys p.algorithms now token m).1 =
      (TokenCache.isFresh p.keys p.algorithms now token n).1) (calls : List TokenCall) :
    shown (p.provide now ⟨m, token, calls⟩) = shown (p.provide now ⟨n, token, calls⟩) := by
  rw [provide, provide]
  dsimp only
  rcases here : TokenCache.isFresh p.keys p.algorithms now token m with ⟨outcome, m⟩
  rcases there : TokenCache.isFresh p.keys p.algorithms now token n with ⟨other, n⟩
  rw [here, there] at same
  cases same
  cases outcome with
  | error fault => rfl
  | ok fresh =>
    cases token with
    | none =>
      -- The match on the outcome only reduces once the answer is known.
      cases fresh <;> exact p.shown_renew now m n none calls
    | some token =>
      cases fresh with
      | false => exact p.shown_renew now m n (some token) calls
      | true => rfl

end Provider

namespace Connector

structure Outbound where
  token : Option Text
  calls : List TokenCall
  now : Value

def State.outbound (s : State) : Outbound := ⟨s.provider.token, s.provider.calls, s.now⟩

def Operation.isOutbound : Operation → Bool
  | .setClock _ | .provide | .currentToken | .keptToken | .dropToken | .acquire _ => true
  | .findKey _ | .dropKey | .decode _ | .validate _ | .validateClaims _ | .setSpare _
  | .spareToken | .isSpareFresh => false

theorem outbound_of_aside (c : Connector) {op : Operation} (aside : op.isOutbound = false)
    (s : State) : (c.step s op).2.outbound = s.outbound := by
  cases op with
  | setClock | provide | currentToken | keptToken | dropToken | acquire => cases aside
  | findKey | dropKey | decode | validate | validateClaims | setSpare | spareToken
    | isSpareFresh => rfl

theorem step_outbound {c : Connector} (shared : c.Shares) {o : Outcome}
    (constant : ∀ i, c.validator.keys.script i = o) {s t : State} {first second : Nat}
    (here : c.validator.keys.KeptSince first s.provider.keys)
    (there : c.validator.keys.KeptSince second t.provider.keys)
    (same : s.outbound = t.outbound) {op : Operation} (outbound : op.isOutbound = true) :
    (c.step s op).1 = (c.step t op).1 ∧
      (c.step s op).2.outbound = (c.step t op).2.outbound := by
  obtain ⟨⟨m, token, calls⟩, spare, now⟩ := s
  obtain ⟨⟨n, other, made⟩, others, clock⟩ := t
  cases same
  -- The memories may differ in whether a key is kept, but what is found is the same key or the same
  -- fault, and so the kept token is judged alike.
  have looked : (c.provider.keys.lookup none m).1 = (c.provider.keys.lookup none n).1 := by
    rw [shared]
    exact here.lookup_eq there constant none
  have provided := Provider.shown_provide
    (TokenCache.isFresh_congr looked c.provider.algorithms now token) calls
  cases op with
  | setClock | keptToken | dropToken => exact ⟨rfl, rfl⟩
  | provide | currentToken =>
    simp only [step, Provider.currentToken, onProvider, State.outbound]
    simp only [shown, Prod.mk.injEq] at provided
    obtain ⟨outcome, kept, called⟩ := provided
    simp only [outcome, kept, called, and_self]
  | acquire endpoint =>
    have asked := c.provider.source.shown_acquire now endpoint m n token calls
    simp only [step, onProvider, State.outbound]
    simp only [shown, Prod.mk.injEq] at asked
    obtain ⟨outcome, kept, called⟩ := asked
    simp only [outcome, kept, called, and_self]
  | findKey | dropKey | decode | validate | validateClaims | setSpare | spareToken
    | isSpareFresh => cases outbound

end Connector

namespace Site

open Connector (Outbound)

variable {ι : Type}

def State.outbound (s : State ι) (i : ι) : Outbound := (s.seenBy i).outbound

/-- What a connector did for its own token in a turn, and what it had of it then. -/
structure Deed (ι : Type) where
  actor : ι
  op : Connector.Operation
  outcome : Except Fault Connector.Result
  left : Outbound

def Event.deed (e : Event ι) : Deed ι := ⟨e.actor, e.op, e.outcome, e.after.outbound e.actor⟩

def isVisible (watched : ι → Bool) (turn : ι × Connector.Operation) : Bool :=
  watched turn.1 && turn.2.isOutbound

variable {site : Site ι} {watched : ι → Bool} {s t : State ι}

/-- Two states that work may have left, and that the watched connectors cannot tell apart. -/
structure Alike (site : Site ι) (watched : ι → Bool) (s t : State ι) : Prop where
  here : site.keys.KeptSince 0 s.keys
  there : site.keys.KeptSince 0 t.keys
  same : ∀ i, watched i = true → s.outbound i = t.outbound i

theorem Alike.symm (alike : site.Alike watched s t) : site.Alike watched t s :=
  ⟨alike.there, alike.here, fun i seen => (alike.same i seen).symm⟩

variable [DecidableEq ι]

def deeds (site : Site ι) (watched : ι → Bool) (s : State ι)
    (work : List (ι × Connector.Operation)) : List (Deed ι) :=
  ((site.trace s work).filter fun e => isVisible watched (e.actor, e.op)).map Event.deed

theorem deeds_of_visible {i : ι} {op : Connector.Operation}
    (visible : isVisible watched (i, op) = true) (s : State ι)
    (rest : List (ι × Connector.Operation)) :
    site.deeds watched s ((i, op) :: rest) =
      (site.event s i op).deed :: site.deeds watched (site.event s i op).after rest := by
  simp [deeds, trace, event, visible]

theorem deeds_of_hidden {i : ι} {op : Connector.Operation}
    (hidden : isVisible watched (i, op) = false) (s : State ι)
    (rest : List (ι × Connector.Operation)) :
    site.deeds watched s ((i, op) :: rest) = site.deeds watched (site.event s i op).after rest := by
  simp [deeds, trace, event, hidden]

theorem event_outbound_self (site : Site ι) (s : State ι) (i : ι) (op : Connector.Operation) :
    (site.event s i op).after.outbound i = ((site.member i).step (s.seenBy i) op).2.outbound := by
  simp [event, State.outbound]

theorem event_outbound_of_ne {i j : ι} (other : j ≠ i) (s : State ι)
    (op : Connector.Operation) : (site.event s i op).after.outbound j = s.outbound j := by
  simp [event, State.outbound, Connector.State.outbound, State.seenBy,
    State.leftBy_own_of_ne other]

theorem event_keptSince {first : Nat} (kept : site.keys.KeptSince first s.keys) (i : ι)
    (op : Connector.Operation) : site.keys.KeptSince first (site.event s i op).after.keys := by
  rw [← site.validated i] at kept ⊢
  exact kept.reaches (Connector.step_reaches (site.shares i) (s.seenBy i) op)

theorem Alike.of_hidden (alike : site.Alike watched s t) {i : ι} {op : Connector.Operation}
    (hidden : isVisible watched (i, op) = false) :
    site.Alike watched s (site.event t i op).after := by
  refine ⟨alike.here, event_keptSince alike.there i op, ?_⟩
  intro j seen
  by_cases actor : j = i
  · subst actor
    -- The actor is watched, so the operation is none on its token.
    have aside : op.isOutbound = false := by simpa [isVisible, seen] using hidden
    rw [event_outbound_self, Connector.outbound_of_aside _ aside]
    exact alike.same j seen
  · rw [event_outbound_of_ne actor]
    exact alike.same j seen

theorem Alike.of_visible {o : Outcome} (constant : ∀ n, site.keys.script n = o)
    (alike : site.Alike watched s t) {i : ι} {op : Connector.Operation}
    (visible : isVisible watched (i, op) = true) :
    (site.event s i op).deed = (site.event t i op).deed ∧
      site.Alike watched (site.event s i op).after (site.event t i op).after := by
  obtain ⟨seen, outbound⟩ : watched i = true ∧ op.isOutbound = true := by
    simpa [isVisible] using visible
  have kept := alike.here
  have keptToo := alike.there
  rw [← site.validated i] at constant kept keptToo
  -- All fetches end alike, so it does not matter whose fetch filled the cache.
  obtain ⟨outcome, left⟩ := Connector.step_outbound (site.shares i) constant (s := s.seenBy i)
    (t := t.seenBy i) kept keptToo (alike.same i seen) outbound
  rw [← event_outbound_self, ← event_outbound_self] at left
  refine ⟨?_, event_keptSince alike.here i op, event_keptSince alike.there i op, ?_⟩
  · simp only [Event.deed, Deed.mk.injEq]
    exact ⟨rfl, rfl, outcome, left⟩
  · intro j watching
    by_cases actor : j = i
    · subst actor
      exact left
    · rw [event_outbound_of_ne actor, event_outbound_of_ne actor]
      exact alike.same j watching

theorem Alike.run {o : Outcome} (constant : ∀ n, site.keys.script n = o)
    (alike : site.Alike watched s t) {work more : List (ι × Connector.Operation)}
    (inserted : Inserted (fun turn => isVisible watched turn = false) work more) :
    site.deeds watched s work = site.deeds watched t more ∧
      site.Alike watched (site.reached s work) (site.reached t more) := by
  -- On how turns were put in: one that both runs have is seen alike in both, or in neither.
  induction inserted generalizing s t with
  | nil => exact ⟨rfl, alike⟩
  | @keep turn _ _ _ ih =>
    obtain ⟨i, op⟩ := turn
    cases visible : isVisible watched (i, op) with
    | true =>
      obtain ⟨deed, later⟩ := alike.of_visible constant visible
      obtain ⟨deeds, reached⟩ := ih later
      rw [deeds_of_visible visible, deeds_of_visible visible, deed, deeds]
      exact ⟨rfl, reached⟩
    | false =>
      have hidden := (alike.of_hidden visible).symm.of_hidden visible
      rw [deeds_of_hidden visible, deeds_of_hidden visible]
      exact ih hidden.symm
  | @insert turn _ _ hidden _ ih =>
    rw [deeds_of_hidden hidden]
    exact ih (alike.of_hidden hidden)

/-- Where all fetches come to the same, turns may be put in anywhere, if only they are none in which
a watched connector acts for its own token. All that these connectors do for their tokens, what
comes of it and what they keep, is what it was without them. -/
theorem tokens_undisturbed (site : Site ι) {o : Outcome} (constant : ∀ n, site.keys.script n = o)
    {s : State ι} (unused : s.keys = .empty) (watched : ι → Bool)
    {work more : List (ι × Connector.Operation)}
    (inserted : Inserted (fun turn => isVisible watched turn = false) work more) :
    site.deeds watched s more = site.deeds watched s work ∧
      ∀ i, watched i = true →
        (site.reached s more).outbound i = (site.reached s work).outbound i := by
  have begun : site.keys.KeptSince 0 s.keys := by
    rw [unused]
    exact .of_missing (m := .empty) rfl
  have alike : site.Alike watched s s := ⟨begun, begun, fun _ _ => rfl⟩
  obtain ⟨deeds, reached⟩ := alike.run constant inserted
  exact ⟨deeds.symm, fun i seen => (reached.same i seen).symm⟩

def briefToken : String :=
  "eyJhbGciOiJIUzI1NiJ9.eyJleHAiOjJ9._cADpRZY2bDJh1b_d5xUNCdcKd" ++
    "YdIGf6_xP9IcCnNZ8"

def unchanging : Site Bool :=
  let answers (n : Nat) := if n = 0 then .ok briefToken else .error .tokenMissing
  ⟨Connector.steady, fun _ => ⟨⟨Connector.steady, [], ["HS256"]⟩,
    ⟨Connector.steady, ["HS256"], .prepared answers, ""⟩⟩, fun _ => rfl, fun _ => rfl⟩

theorem briefToken_undisturbed :
    let work := [(true, .setClock (.int 1)), (true, .provide), (true, .provide)]
    let more := [(true, .setClock (.int 1)), (true, .provide), (true, .decode Connector.firstToken),
      (false, .provide), (false, .setClock (.int 3)), (true, .dropKey), (true, .provide),
      (false, .validate Connector.firstToken)]
    unchanging.deeds id start more = unchanging.deeds id start work ∧
      (unchanging.deeds id start work).map (fun deed => deed.left.token) =
        [none, some (.proper briefToken), some (.proper briefToken)] ∧
      (unchanging.reached start work).keys.fetched = 1 ∧
      (unchanging.reached start more).keys.fetched = 4 := by
  intro work more
  -- The key is dropped three times, and fetched again each time.
  have inserted : Inserted (fun turn => isVisible id turn = false) work more :=
    .keep (.keep (.insert rfl (.insert rfl (.insert rfl (.insert rfl (.keep (.insert rfl .nil)))))))
  refine ⟨(unchanging.tokens_undisturbed (fun _ => rfl) rfl id inserted).1, ?_, ?_, ?_⟩
  · decide +kernel
  · decide +kernel
  · decide +kernel

end Site

end TokenGate
