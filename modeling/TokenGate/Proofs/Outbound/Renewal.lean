import TokenGate.Proofs.Outbound.Freshness

/-! What the provider of the own token does in each situation that it can be in: no token is kept,
no key is found to judge the kept one with, or the kept one is live, expired or does not verify.
-/

set_option autoImplicit false

namespace TokenGate

theorem TokenSource.acquire_eq (source : TokenSource) (now : Value) (endpoint : String)
    (before : List TokenCall) :
    ∃ outcome calls, ∀ s : ProviderState, s.calls = before →
      source.acquire now endpoint s = (outcome, { s with calls := calls }) := by
  -- Outcome and calls are told from the calls before alone.
  cases source with
  | prepared answers =>
    refine ⟨answers before.length, .asked endpoint :: before, ?_⟩
    rintro s rfl
    rfl
  | authority acquirer script =>
    cases requested : acquirer.request now endpoint with
    | error fault =>
      refine ⟨.error fault, before, ?_⟩
      rintro s rfl
      exact acquire_of_unmade requested
    | ok request =>
      refine ⟨Acquirer.ofOutcome endpoint (script before.length), .sent request :: before, ?_⟩
      rintro s rfl
      exact acquire_of_made requested

namespace Provider

variable {p : Provider} {s : ProviderState} {now : Value} {token : Text} {keys n : KeyMemory}

/-- The source is asked once, and what it answers is the outcome. Only an answer that is a token
takes the place of the kept one; the keys are left like this. -/
structure Asks (p : Provider) (now : Value) (s : ProviderState) (keys : KeyMemory)
    (result : Except Fault Text × ProviderState) : Prop where
  asked : p.source.acquire now p.tokenUrl s = (result.1, { s with calls := result.2.calls })
  counted : ∀ answers, p.source = .prepared answers →
    result.1 = answers s.calls.length ∧ result.2.calls = .asked p.tokenUrl :: s.calls
  keys : result.2.keys = keys
  replaced : ∀ token, result.1 = .ok token → result.2.token = some token
  left : ∀ fault, result.1 = .error fault → result.2.token = s.token

theorem renew_asks (p : Provider) (now : Value) (s : ProviderState) (keys : KeyMemory) :
    p.Asks now s keys (p.renew now { s with keys := keys }) := by
  obtain ⟨outcome, calls, made⟩ := p.source.acquire_eq now p.tokenUrl s.calls
  have asked := made s rfl
  have counted : ∀ answers, p.source = .prepared answers →
      outcome = answers s.calls.length ∧ calls = .asked p.tokenUrl :: s.calls := by
    intro answers prepared
    rw [prepared, TokenSource.acquire] at asked
    cases asked
    exact ⟨rfl, rfl⟩
  -- How the asking ends depends on the calls before it, and not on the keys.
  rw [renew, made { s with keys := keys } rfl]
  cases outcome with
  | ok issued =>
    refine ⟨asked, counted, rfl, ?_, ?_⟩
    · intro token same
      cases same
      rfl
    · intro fault impossible
      cases impossible
  | error fault =>
    refine ⟨asked, counted, rfl, ?_, fun _ _ => rfl⟩
    intro token impossible
    cases impossible

theorem provide_of_missing (missing : s.token = none) :
    p.provide now s = p.renew now { s with keys := s.keys } := by
  obtain ⟨_, _, _⟩ := s
  cases missing
  rfl

theorem provide_of_keyless {fault : Fault} (held : s.token = some token)
    (failed : p.keys.lookup none s.keys = (.error fault, n)) :
    p.provide now s = (.error fault, { s with keys := n }) := by
  have unjudged : TokenCache.isFresh p.keys p.algorithms now s.token s.keys =
      (.error fault, n) := by
    simp only [held, TokenCache.isFresh, failed]
  simp only [provide, unjudged]

theorem Settled.of_decoded {key : PublishedKey} {claims : Members}
    {result : Except Fault Text × ProviderState} (settled : p.Settled now s token key n result)
    (decoded : Token.decodeText p.algorithms key.key token = .ok claims) :
    (TokenCache.Live now claims → result = (.ok token, { s with keys := n })) ∧
    (¬ TokenCache.Live now claims → result = p.renew now { s with keys := n }) := by
  have only : ∀ others, TokenCache.Verified p.algorithms key.key token others →
      others = claims := by
    intro others verified
    have again := TokenCache.decodeText_eq_ok_iff.mpr verified
    rw [decoded] at again
    exact (Except.ok.inj again).symm
  cases settled with
  | kept verified live =>
    rw [only _ verified] at live
    exact ⟨fun _ => rfl, fun expired => absurd live expired⟩
  | expired verified expired =>
    rw [only _ verified] at expired
    exact ⟨fun live => absurd live expired, fun _ => rfl⟩
  | unverified unverified =>
    exact absurd (TokenCache.decodeText_eq_ok_iff.mp decoded) (unverified claims)

theorem Settled.of_undecoded {key : PublishedKey} {result : Except Fault Text × ProviderState}
    (settled : p.Settled now s token key n result)
    (undecoded : ∀ claims, Token.decodeText p.algorithms key.key token ≠ .ok claims) :
    result = p.renew now { s with keys := n.forget } := by
  cases settled with
  | kept verified | expired verified =>
    exact absurd (TokenCache.decodeText_eq_ok_iff.mpr verified) (undecoded _)
  | unverified => rfl

/-- Let the key that is found be of use for the kept token, if there are both. Then the source is
asked exactly once or not at all: it is asked if no token is kept, or if the kept one is expired or
does not verify, and in this last case alone the key is dropped. It is not asked if the kept token
is live, which is handed out then, or if the look-up of the key ends in a fault, which is the end of
it all. -/
theorem provide_decided (clock : Rule.isNumber now = true)
    (usable : ∀ token key n, s.token = some token → p.keys.lookup none s.keys = (.ok key, n) →
      ∀ kind, Token.decodeText p.algorithms key.key token ≠ .error (.crash kind)) :
    (s.token = none → p.Asks now s s.keys (p.provide now s)) ∧
    ∀ token, s.token = some token →
      (∀ fault n, p.keys.lookup none s.keys = (.error fault, n) →
        p.provide now s = (.error fault, { s with keys := n })) ∧
      ∀ key n, p.keys.lookup none s.keys = (.ok key, n) → n.entry = some key ∧
        (∀ claims, Token.decodeText p.algorithms key.key token = .ok claims →
          (TokenCache.Live now claims → p.provide now s = (.ok token, { s with keys := n })) ∧
          (¬ TokenCache.Live now claims → p.Asks now s n (p.provide now s))) ∧
        ((∀ claims, Token.decodeText p.algorithms key.key token ≠ .ok claims) →
          p.Asks now s n.forget (p.provide now s)) := by
  refine ⟨?_, fun token held => ⟨fun fault n => provide_of_keyless held, ?_⟩⟩
  · intro missing
    rw [provide_of_missing missing]
    exact p.renew_asks now s s.keys
  · intro key n found
    obtain ⟨_, provided, _⟩ := KeySource.lookup_eq_ok_iff.mp found
    -- What would end in a fault here is what the hypothesis leaves aside.
    have fit : ¬ TokenCache.Unfit p.algorithms key.key token := by
      intro unfit
      obtain ⟨kind, crashed⟩ := TokenCache.decodeText_crashes_iff.mpr unfit
      exact usable token key n held found kind crashed
    have settled := provide_settled held provided clock fit
    refine ⟨provided.entry, ?_, ?_⟩
    · intro claims decoded
      obtain ⟨whenLive, whenExpired⟩ := settled.of_decoded decoded
      refine ⟨whenLive, ?_⟩
      intro expired
      rw [whenExpired expired]
      exact p.renew_asks now s n
    · intro undecoded
      rw [settled.of_undecoded undecoded]
      exact p.renew_asks now s n.forget

def exhausted : Provider :=
  ⟨⟨"", none, 10, fun _ => .ofSecret "dHdv"⟩, ["HS256"],
    .prepared fun _ => .error .tokenMissing, ""⟩

/-- A token under that secret, which expires when the clock reads nine. -/
def lapsingToken : String :=
  "eyJhbGciOiJIUzI1NiJ9.eyJleHAiOjl9.GiYnb-x3mE50MPnamgOsqApTDbfUrp7mgAwAmFrRfHA"

theorem lapsingToken_decoded : ∃ key claims,
    exhausted.keys.lookup none .empty = (.ok key, ⟨some key, 1⟩) ∧
    Token.decodeText exhausted.algorithms key.key lapsingToken = .ok claims ∧
    TokenCache.isCurrent (.int 9) claims = .ok false := by
  have computed : (exhausted.keys.ofOutcome (.ofSecret "dHdv")).toOption.bind (fun key =>
      (Token.decodeText exhausted.algorithms key.key lapsingToken).toOption.bind fun claims =>
        (TokenCache.isCurrent (.int 9) claims).toOption) = some false := by
    decide +kernel
  obtain ⟨key, served, computed⟩ := Option.bind_eq_some_iff.mp computed
  obtain ⟨claims, decoded, expired⟩ := Option.bind_eq_some_iff.mp computed
  rw [toOption_eq_some_iff] at served decoded expired
  have provided : exhausted.keys.Provides .empty key ⟨some key, 1⟩ :=
    .fetched rfl (KeySource.ofOutcome_eq_ok_iff.mp served)
  refine ⟨key, claims, KeySource.lookup_eq_ok_iff.mpr ⟨rfl, provided, ?_⟩, decoded, expired⟩
  intro kid impossible
  cases impossible

/-- At nine the token is not handed out any more, and another one is asked for. The fault that comes
of it leaves the token and the key that was fetched. -/
theorem lapsingToken_asked_for :
    let s : ProviderState := ⟨.empty, some lapsingToken, []⟩
    ∃ key, exhausted.Asks (.int 9) s ⟨some key, 1⟩ (exhausted.provide (.int 9) s) ∧
      (exhausted.provide (.int 9) s).1 = .error .tokenMissing ∧
      (exhausted.provide (.int 9) s).2.token = some (.proper lapsingToken) := by
  intro s
  obtain ⟨key, claims, found, decoded, expired⟩ := lapsingToken_decoded
  have clock : Rule.isNumber (.int 9) = true := rfl
  have usable : ∀ token other n, s.token = some token →
      exhausted.keys.lookup none s.keys = (.ok other, n) →
      ∀ kind, Token.decodeText exhausted.algorithms other.key token ≠ .error (.crash kind) := by
    rintro _ other n ⟨⟩ again kind crashed
    rw [found] at again
    cases again
    rw [decoded] at crashed
    cases crashed
  have dead : ¬ TokenCache.Live (.int 9) claims := by
    obtain ⟨current, told, live⟩ := TokenCache.isCurrent_eq clock claims
    rw [expired] at told
    cases told
    exact fun alive => Bool.false_ne_true (live.mpr alive)
  obtain ⟨_, judged⟩ := provide_decided clock usable
  obtain ⟨_, whenFound⟩ := judged lapsingToken rfl
  obtain ⟨_, whenDecoded, _⟩ := whenFound key ⟨some key, 1⟩ found
  have asks := (whenDecoded claims decoded).2 dead
  have refused := (asks.counted _ rfl).1
  exact ⟨key, asks, refused, asks.left _ refused⟩

end Provider

end TokenGate
