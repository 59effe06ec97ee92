import TokenGate.Proofs.Outbound.Provision
import TokenGate.Proofs.Rule.Passing
import TokenGate.Proofs.Token.Suitability

/-! When a kept token is handed out, and when a new one is asked for in its place. Neither happens
if the key cannot be used with the algorithm that the token asks for: then token and key stay.
-/

set_option autoImplicit false

namespace TokenGate

namespace TokenCache

variable {keys : KeySource} {algorithms : List String} {now : Value} {token : Text}
  {key : PublishedKey} {m n : KeyMemory} {claims : Members}

def Verified (algorithms : List String) (key : Key) (token : Text) (claims : Members) : Prop :=
  ∃ s : String, token = s ∧ Token.Authentic algorithms key s.toList claims

/-- There is no judgement of a token that has no encoding, nor of one that asks for an algorithm
that the key cannot be used with. -/
def Unfit (algorithms : List String) (key : Key) (token : Text) : Prop :=
  ∀ s : String, token = s → Token.Unfit algorithms key s.toList

theorem verified_proper {key : Key} {s : String} :
    Verified algorithms key s claims ↔ Token.Authentic algorithms key s.toList claims := by
  simp [Verified]

theorem decodeText_eq_ok_iff {key : Key} :
    Token.decodeText algorithms key token = .ok claims ↔ Verified algorithms key token claims := by
  cases token with
  | proper s => simp [Token.decodeText, Verified, Token.decode_eq_ok_iff]
  | halved t => simp [Token.decodeText, Verified]

theorem decodeText_crashes_iff {key : Key} :
    (∃ kind, Token.decodeText algorithms key token = .error (.crash kind)) ↔
      Unfit algorithms key token := by
  cases token with
  | proper s => simp [Token.decodeText, Unfit, Token.decode_crashes_iff]
  | halved t => simp [Token.decodeText, Unfit]

def Live (now : Value) (claims : Members) : Prop :=
  ∃ exp, Members.get? claims "exp" = some exp ∧ Rule.isNumber exp = true ∧ now.lt? exp = some true

theorem isCurrent_eq (clock : Rule.isNumber now = true) (claims : Members) :
    ∃ current, isCurrent now claims = .ok current ∧ (current = true ↔ Live now claims) := by
  unfold isCurrent Live
  cases Members.get? claims "exp" with
  | none => exact ⟨false, rfl, by simp⟩
  | some exp =>
    cases number : Rule.isNumber exp with
    | false => exact ⟨false, by simp [number], by simp [number]⟩
    | true =>
      -- Two numbers always have an order, so the comparison cannot fail.
      obtain ⟨before, order⟩ := Rule.lt?_of_isNumber clock number
      exact ⟨before, by simp [number, order], by simp [number, order]⟩

theorem isFresh_eq_judge (provided : keys.Provides m key n) (algorithms : List String)
    (now : Value) (token : Text) :
    isFresh keys algorithms now (some token) m = judge algorithms now token key n := by
  have found : keys.lookup none m = (.ok key, n) :=
    KeySource.lookup_eq_ok_iff.mpr ⟨rfl, provided, fun _ impossible => by cases impossible⟩
  simp only [isFresh, found]

theorem judge_of_verified
    (verified : Verified algorithms key.key token claims) (now : Value) (m : KeyMemory) :
    judge algorithms now token key m = (isCurrent now claims, m) := by
  simp only [judge, decodeText_eq_ok_iff.mpr verified]

theorem judge_of_unfit (unfit : Unfit algorithms key.key token) :
    ∃ kind, ∀ now m, judge algorithms now token key m = (.error (.crash kind), m) := by
  obtain ⟨kind, crashed⟩ := decodeText_crashes_iff.mpr unfit
  exact ⟨kind, fun now m => by simp only [judge, crashed]⟩

theorem judge_of_unverified (fit : ¬ Unfit algorithms key.key token)
    (unverified : ∀ claims, ¬ Verified algorithms key.key token claims) :
    judge algorithms now token key m = (.ok false, m.forget) := by
  unfold judge
  split
  · next claims decoded => exact absurd (decodeText_eq_ok_iff.mp decoded) (unverified claims)
  · next kind crashed => exact absurd (decodeText_crashes_iff.mp ⟨kind, crashed⟩) fit
  · rfl

theorem judge_cases (clock : Rule.isNumber now = true) (algorithms : List String) (token : Text)
    (key : PublishedKey) (m : KeyMemory) :
    (Unfit algorithms key.key token ∧
      ∃ kind, judge algorithms now token key m = (.error (.crash kind), m)) ∨
    (∃ claims, Verified algorithms key.key token claims ∧ Live now claims ∧
      judge algorithms now token key m = (.ok true, m)) ∨
    (∃ claims, Verified algorithms key.key token claims ∧ ¬ Live now claims ∧
      judge algorithms now token key m = (.ok false, m)) ∨
    ((∀ claims, ¬ Verified algorithms key.key token claims) ∧
      judge algorithms now token key m = (.ok false, m.forget)) := by
  by_cases unfit : Unfit algorithms key.key token
  · obtain ⟨kind, crashes⟩ := judge_of_unfit unfit
    exact .inl ⟨unfit, kind, crashes now m⟩
  · by_cases some : ∃ claims, Verified algorithms key.key token claims
    · obtain ⟨claims, verified⟩ := some
      obtain ⟨current, told, live⟩ := isCurrent_eq clock claims
      have judged := judge_of_verified verified now m
      rw [told] at judged
      cases current with
      | true => exact .inr (.inl ⟨claims, verified, live.mp rfl, judged⟩)
      | false =>
        have expired : ¬ Live now claims := fun alive => Bool.false_ne_true (live.mpr alive)
        exact .inr (.inr (.inl ⟨claims, verified, expired, judged⟩))
    · have unverified := not_exists.mp some
      exact .inr (.inr (.inr ⟨unverified, judge_of_unverified unfit unverified⟩))

theorem judge_raises_iff (clock : Rule.isNumber now = true) :
    (∃ fault, (judge algorithms now token key m).1 = .error fault) ↔
      Unfit algorithms key.key token := by
  constructor
  · rintro ⟨fault, raised⟩
    rcases judge_cases clock algorithms token key m with
      ⟨unfit, _⟩ | ⟨_, _, _, judged⟩ | ⟨_, _, _, judged⟩ | ⟨_, judged⟩
    · exact unfit
    all_goals
      rw [judged] at raised
      cases raised
  · intro unfit
    obtain ⟨kind, crashes⟩ := judge_of_unfit unfit
    exact ⟨.crash kind, by rw [crashes]⟩

end TokenCache

namespace Provider

variable {p : Provider} {s : ProviderState} {now : Value} {token : Text} {key : PublishedKey}
  {n : KeyMemory}

/-- How it ends if a token is asked for while one is kept and this key is found. -/
inductive Settled (p : Provider) (now : Value) (s : ProviderState) (token : Text)
    (key : PublishedKey) (n : KeyMemory) : Except Fault Text × ProviderState → Prop where
  | kept {claims : Members} : TokenCache.Verified p.algorithms key.key token claims →
      TokenCache.Live now claims → Settled p now s token key n (.ok token, { s with keys := n })
  | expired {claims : Members} : TokenCache.Verified p.algorithms key.key token claims →
      ¬ TokenCache.Live now claims → Settled p now s token key n (p.renew now { s with keys := n })
  | unverified : (∀ claims, ¬ TokenCache.Verified p.algorithms key.key token claims) →
      Settled p now s token key n (p.renew now { s with keys := n.forget })

theorem renew_outcome (p : Provider) (now : Value) (s : ProviderState) :
    (p.renew now s).1 = (p.source.acquire now p.tokenUrl s).1 := by
  rw [renew]
  rcases p.source.acquire now p.tokenUrl s with ⟨_ | _, _⟩ <;> rfl

theorem provide_eq (held : s.token = some token) (provided : p.keys.Provides s.keys key n) :
    p.provide now s =
      match TokenCache.judge p.algorithms now token key n with
      | (.error fault, keys) => (.error fault, { s with keys := keys })
      | (.ok true, keys) => (.ok token, { s with keys := keys })
      | (.ok false, keys) => p.renew now { s with keys := keys } := by
  have judged := TokenCache.isFresh_eq_judge provided p.algorithms now token
  obtain ⟨m, kept, calls⟩ := s
  cases held
  simp only [provide, judged]
  rcases TokenCache.judge p.algorithms now token key n with ⟨fault | current, keys⟩
  · rfl
  · cases current <;> rfl

theorem provide_settled (held : s.token = some token) (provided : p.keys.Provides s.keys key n)
    (clock : Rule.isNumber now = true)
    (fit : ¬ TokenCache.Unfit p.algorithms key.key token) :
    p.Settled now s token key n (p.provide now s) := by
  rw [provide_eq held provided]
  rcases TokenCache.judge_cases clock p.algorithms token key n with
    ⟨unfit, _⟩ | ⟨_, verified, live, judged⟩ | ⟨_, verified, expired, judged⟩ |
      ⟨unverified, judged⟩
  · exact absurd unfit fit
  · rw [judged]
    exact .kept verified live
  · rw [judged]
    exact .expired verified expired
  · rw [judged]
    exact .unverified unverified

def provideAll (p : Provider) :
    ProviderState → List Value → List (Except Fault Text) × ProviderState
  | s, [] => ([], s)
  | s, now :: later =>
    let (outcome, s) := p.provide now s
    let (outcomes, s) := p.provideAll s later
    (outcome :: outcomes, s)

theorem provideAll_of_fixed {outcome : Except Fault Text}
    (fixed : ∀ now, p.provide now s = (outcome, s)) (times : List Value) :
    p.provideAll s times = (times.map fun _ => outcome, s) := by
  induction times with
  | nil => rfl
  | cons now later ih => simp only [provideAll, fixed, ih, List.map_cons]

theorem provideAll_of_unfit (held : s.token = some token)
    (provided : p.keys.Provides s.keys key n)
    (unfit : TokenCache.Unfit p.algorithms key.key token) :
    ∃ kind, ∀ first later, p.provideAll s (first :: later) =
      ((first :: later).map fun _ => .error (.crash kind), { s with keys := n }) := by
  obtain ⟨kind, crashes⟩ := TokenCache.judge_of_unfit unfit
  refine ⟨kind, ?_⟩
  intro first later
  -- The first asking may fetch the key; from then on it is kept, and nothing changes any more.
  have still : ∀ now, p.provide now { s with keys := n } =
      (.error (.crash kind), { s with keys := n }) := by
    intro now
    rw [provide_eq (s := { s with keys := n }) held (.kept provided.entry), crashes]
  simp only [provideAll, provide_eq held provided, crashes, provideAll_of_fixed still,
    List.map_cons]

/-- Let a token be kept and a key be found. The token is handed out, or a new one is asked for, and
the key is dropped if the token does not verify. Only a token that has no encoding, or that asks for
an algorithm that the key cannot be used with, ends in a fault, at all times and for good: nothing
is asked for then. -/
theorem provide_stalls_iff (held : s.token = some token)
    (provided : p.keys.Provides s.keys key n) (clock : Rule.isNumber now = true) :
    let unfit := TokenCache.Unfit p.algorithms key.key token
    ((∃ fault, (TokenCache.isFresh p.keys p.algorithms now s.token s.keys).1 = .error fault) ↔
      unfit) ∧
    (unfit → ∃ kind, ∀ first later, p.provideAll s (first :: later) =
      ((first :: later).map fun _ => .error (.crash kind), { s with keys := n })) ∧
    (¬ unfit → p.Settled now s token key n (p.provide now s)) ∧
    ∀ t, (p.renew now t).1 = (p.source.acquire now p.tokenUrl t).1 := by
  intro unfit
  refine ⟨?_, provideAll_of_unfit held provided, provide_settled held provided clock,
    p.renew_outcome now⟩
  rw [held, TokenCache.isFresh_eq_judge provided]
  exact TokenCache.judge_raises_iff clock

def barred : Provider :=
  ⟨⟨"", none, 10, fun _ => .ofSecret "dHdv"⟩, ["RS256"], .prepared fun _ => .ok "t", ""⟩

theorem barred_stalls :
    let s : ProviderState := ⟨.empty, some "eyJhbGciOiJSUzI1NiJ9.e30.AA", []⟩
    ∃ kind m, ∀ first later, barred.provideAll s (first :: later) =
      ((first :: later).map fun _ => .error (.crash kind), { s with keys := m }) := by
  intro s
  have served : (barred.keys.ofOutcome (.ofSecret "dHdv")).toOption.isSome = true := by
    decide +kernel
  have failed : (TokenCache.isFresh barred.keys ["RS256"] (.int 1) s.token s.keys).1.toOption =
      none := by
    decide +kernel
  obtain ⟨key, given⟩ := Option.isSome_iff_exists.mp served
  have provided : barred.keys.Provides s.keys key ⟨some key, 1⟩ :=
    .fetched rfl (KeySource.ofOutcome_eq_ok_iff.mp (toOption_eq_some_iff.mp given))
  have clock : Rule.isNumber (.int 1) = true := rfl
  obtain ⟨raises, stalls, _⟩ := provide_stalls_iff (p := barred) (s := s) rfl provided clock
  have unfit : ∃ fault, (TokenCache.isFresh barred.keys ["RS256"] (.int 1) s.token s.keys).1 =
      .error fault := by
    cases outcome : (TokenCache.isFresh barred.keys ["RS256"] (.int 1) s.token s.keys).1 with
    | error fault => exact ⟨fault, rfl⟩
    | ok fresh =>
      rw [outcome] at failed
      cases failed
  obtain ⟨kind, stuck⟩ := stalls (raises.mp unfit)
  exact ⟨kind, _, stuck⟩

end Provider

end TokenGate
