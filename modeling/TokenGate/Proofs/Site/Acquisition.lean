import TokenGate.Proofs.Outbound.Provision
import TokenGate.Proofs.Site.Basic

/-! Which token a connector keeps, among others that use the same memory of the key. It is the one
that was issued last, whatever went wrong since, unless the connector has dropped it.
-/

set_option autoImplicit false

namespace TokenGate

namespace Connector

namespace Operation

def IsProvision (op : Operation) : Prop := op = .provide ∨ op = .currentToken

/-- The provider is called, and not merely a part of it. -/
def IsCall (op : Operation) : Prop := op.IsProvision ∨ op = .dropToken

end Operation

inductive Returns : Operation → Option Text → Result → Prop where
  | provide {t : Text} : Returns .provide (some t) (.token (some t))
  | currentToken {t : Text} :
      Returns .currentToken (some t) (.header ⟨t, AttributeToken.defaultFormat⟩)
  | dropToken : Returns .dropToken none .done

variable {op : Operation}

theorem step_provision (c : Connector) (provision : op.IsProvision) (s : State) :
    ∃ wrap, (∀ t, Returns op (some t) (wrap t)) ∧
      c.step s op = onProvider wrap s (c.provider.provide s.now s.provider) := by
  rcases provision with rfl | rfl
  · exact ⟨_, fun t => .provide, rfl⟩
  · refine ⟨fun t => .header ⟨t, AttributeToken.defaultFormat⟩, fun t => .currentToken, ?_⟩
    rw [step, Provider.currentToken]
    rcases c.provider.provide s.now s.provider with ⟨_ | _, _⟩ <;> rfl

theorem step_token (c : Connector) (uncalled : ¬ op.IsCall) (s : State) :
    (c.step s op).2.provider.token = s.provider.token := by
  cases op with
  | provide | currentToken | dropToken => simp [Operation.IsCall, Operation.IsProvision] at uncalled
  | acquire endpoint => exact c.provider.source.acquire_token s.now endpoint s.provider
  | setClock | findKey | dropKey | decode | validate | validateClaims | keptToken | setSpare
    | spareToken | isSpareFresh =>
    -- These change the memory of the key at most, or the clock, or the spare token.
    rfl

end Connector

namespace Site

variable {ι : Type}

/-- A call of the provider returns the token that it leaves, or it fails and leaves the token that
it found. It asks for a token at most once, and for a key at most once. -/
structure Event.Orderly (e : Event ι) : Prop where
  returned : ∀ r, e.outcome = .ok r → Connector.Returns e.op (e.after.own e.actor).token r
  untouched : ∀ fault, e.outcome = .error fault →
    (e.after.own e.actor).token = (e.before.own e.actor).token
  called : (e.after.own e.actor).calls = (e.before.own e.actor).calls ∨
    ∃ call, (e.after.own e.actor).calls = call :: (e.before.own e.actor).calls
  fetched : e.after.keys.fetched ≤ e.before.keys.fetched + 1

structure Issues (site : Site ι) (i : ι) (e : Event ι) (t : Text) : Prop where
  actor : e.actor = i
  provision : e.op.IsProvision
  issued : (site.member i).provider.Issued (e.before.seenBy i).provider
    (e.after.seenBy i).provider t

inductive Supersedes (site : Site ι) (i : ι) (e : Event ι) : Prop where
  | issued {t : Text} : site.Issues i e t → Supersedes site i e
  | dropped : e.actor = i → e.op = .dropToken → Supersedes site i e

/-- The last token that was issued to a connector, if the connector has not dropped it since. -/
def IssuedLast (site : Site ι) (i : ι) (events : List (Event ι)) (t : Text) : Prop :=
  ∃ earlier e later, events = earlier ++ e :: later ∧ site.Issues i e t ∧
    ∀ x ∈ later, ¬ site.Supersedes i x

def Follows (site : Site ι) (i : ι) (e : Event ι) : Prop :=
  ∀ t, (e.after.own i).token = some t ↔
    site.Issues i e t ∨ ¬ site.Supersedes i e ∧ (e.before.own i).token = some t

variable {site : Site ι} {i : ι} {e : Event ι} {t : Text}

theorem issuedLast_cons {events : List (Event ι)} :
    site.IssuedLast i (e :: events) t ↔ site.IssuedLast i events t ∨
      site.Issues i e t ∧ ∀ x ∈ events, ¬ site.Supersedes i x := by
  constructor
  · rintro ⟨earlier, x, later, split, issues, since⟩
    cases earlier with
    | nil =>
      cases split
      exact .inr ⟨issues, since⟩
    | cons head earlier =>
      cases split
      exact .inl ⟨earlier, x, later, rfl, issues, since⟩
  · rintro (⟨earlier, x, later, rfl, issues, since⟩ | ⟨issues, since⟩)
    · exact ⟨e :: earlier, x, later, rfl, issues, since⟩
    · exact ⟨[], e, events, rfl, issues, since⟩

theorem Follows.of_issued (issues : site.Issues i e t)
    (kept : (e.after.own i).token = some t) : site.Follows i e := by
  intro u
  rw [kept, Option.some.injEq]
  constructor
  · rintro rfl
    exact .inl issues
  · rintro (again | ⟨unmoved, _⟩)
    · exact issues.issued.unique again.issued
    · exact absurd (.issued issues) unmoved

theorem Follows.of_dropped (actor : e.actor = i) (dropped : e.op = .dropToken)
    (missing : (e.after.own i).token = none) : site.Follows i e := by
  intro t
  rw [missing]
  constructor
  · exact fun impossible => by cases impossible
  · rintro (issues | ⟨unmoved, _⟩)
    · rcases issues.provision with same | same <;> rw [dropped] at same <;> cases same
    · exact absurd (.dropped actor dropped) unmoved

theorem Follows.of_untouched (unmoved : ¬ site.Supersedes i e)
    (same : (e.after.own i).token = (e.before.own i).token) : site.Follows i e := by
  intro t
  rw [same]
  constructor
  · exact fun kept => .inr ⟨unmoved, kept⟩
  · rintro (issues | ⟨_, kept⟩)
    · exact absurd (.issued issues) unmoved
    · exact kept

variable [DecidableEq ι]

theorem event_provision (site : Site ι) (s : State ι) (i : ι) {op : Connector.Operation}
    (provision : op.IsProvision) :
    ∃ wrap outcome p, (∀ t, Connector.Returns op (some t) (wrap t)) ∧
      (site.member i).provider.Provided (s.seenBy i).provider outcome p ∧
      p.keys.fetched ≤ s.keys.fetched + 1 ∧
      site.event s i op =
        ⟨i, op, s, outcome.map wrap, s.leftBy i { s.seenBy i with provider := p }⟩ := by
  obtain ⟨wrap, returns, step⟩ := (site.member i).step_provision provision (s.seenBy i)
  refine ⟨wrap, _, _, returns, Provider.provide_provided _ (s.own i).now _,
    Provider.provide_fetched_le _ (s.own i).now _, ?_⟩
  rw [event, step]
  rfl

theorem event_orderly (site : Site ι) (s : State ι) (i : ι) {op : Connector.Operation}
    (call : op.IsCall) : (site.event s i op).Orderly := by
  -- Either a token is handed out, in one wrapping or another, or the kept one is dropped.
  rcases call with provision | rfl
  · obtain ⟨wrap, outcome, p, returns, provided, fetched, happened⟩ :=
      site.event_provision s i provision
    rw [happened]
    refine ⟨?_, ?_, by simpa using provided.calls, fetched⟩
    · intro r finished
      cases outcome with
      | error fault => cases finished
      | ok t =>
        cases finished
        simpa [provided.token_of_ok] using returns t
    · intro fault failed
      cases outcome with
      | ok t => cases failed
      | error fault => simpa using provided.token_of_error
  · refine ⟨?_, ?_, .inl ?_, Nat.le_succ _⟩
    · rintro _ ⟨⟩
      simpa [event, Connector.step, Provider.invalidate] using Connector.Returns.dropToken
    · intro fault failed
      cases failed
    · simp [event, Connector.step, Provider.invalidate]

theorem event_follows (site : Site ι) (s : State ι) (i j : ι) (op : Connector.Operation) :
    site.Follows i (site.event s j op) := by
  by_cases other : i = j
  · subst other
    by_cases call : op.IsCall
    · rcases call with provision | rfl
      · obtain ⟨wrap, outcome, p, _, provided, _, happened⟩ := site.event_provision s i provision
        rw [happened]
        -- Only the call that was answered with a token counts; a refused one and a fault do not.
        rcases provided.token_cases with ⟨token, issued, kept⟩ | ⟨unissued, kept⟩
        · exact .of_issued ⟨rfl, provision, by simpa using issued⟩ (by simpa using kept)
        · refine .of_untouched ?_ (by simpa using kept)
          rintro (issues | ⟨_, dropped⟩)
          · exact unissued _ (by simpa using issues.issued)
          · rcases provision with rfl | rfl <;> cases dropped
      · exact .of_dropped rfl rfl (by simp [event, Connector.step, Provider.invalidate])
    · refine .of_untouched ?_ ?_
      · rintro (issues | ⟨_, dropped⟩)
        · exact call (.inl issues.provision)
        · exact call (.inr dropped)
      · simpa [event] using (site.member i).step_token call (s.seenBy i)
  · refine .of_untouched ?_ ?_
    · rintro (issues | ⟨actor, _⟩)
      · exact other issues.actor.symm
      · exact other actor.symm
    · rw [event, State.leftBy_own_of_ne other]

/-- Work leaves the token that was issued last in it, or else the one before, if that is not
dropped. -/
theorem reached_token_iff (site : Site ι) (i : ι) (s : State ι)
    (work : List (ι × Connector.Operation)) :
    ((site.reached s work).own i).token = some t ↔
      site.IssuedLast i (site.trace s work) t ∨
        (∀ e ∈ site.trace s work, ¬ site.Supersedes i e) ∧ (s.own i).token = some t := by
  -- The first turn shows in the end only if no later one supersedes it.
  induction work generalizing s with
  | nil => simp [reached, trace, IssuedLast]
  | cons turn rest ih =>
    rw [reached, trace, issuedLast_cons, ih, event_follows, event_before, List.forall_mem_cons,
      and_or_left, or_assoc]
    simp only [and_assoc, and_comm, and_left_comm]

/-- A connector that has no token at first keeps, after any work of all connectors, the token that
was issued to it last and that it has not dropped since, and no other one. Each call of a provider
is orderly, whatever the others have done to the memory of the key before. -/
theorem kept_iff_issuedLast (site : Site ι) (i : ι) {s : State ι}
    (unkept : (s.own i).token = none) (work : List (ι × Connector.Operation)) :
    (∀ t, ((site.reached s work).own i).token = some t ↔
      site.IssuedLast i (site.trace s work) t) ∧
    ∀ e ∈ site.trace s work, e.op.IsCall → e.Orderly := by
  constructor
  · intro t
    rw [reached_token_iff, unkept]
    simp
  · intro e member call
    obtain ⟨s, j, op, rfl⟩ := mem_trace member
    exact site.event_orderly s j call

theorem offline_keeps_first :
    let work := [(true, .provide), (false, .dropKey), (true, .currentToken), (false, .dropToken)]
    ((offline.reached start work).own true).token = some (.proper "t") ∧
      offline.IssuedLast true (offline.trace start work) "t" := by
  intro work
  have kept : ((offline.reached start work).own true).token = some (.proper "t") :=
    by decide +kernel
  exact ⟨kept, ((offline.kept_iff_issuedLast true rfl work).1 "t").mp kept⟩

end Site

end TokenGate
