import TokenGate.Proofs.Inbound.Rotation
import TokenGate.Proofs.Outbound.Freshness
import TokenGate.Proofs.Site.Economy

/-! A connector judges its own token as it would judge it if another one sent it. The two judgements
look the key up by different names and are written apart, but they find the same key, and the same
tokens count.
-/

set_option autoImplicit false

namespace TokenGate

/-- A token that names no key, or the configured one; or, if none is configured, the key that would
be found. -/
def KeySource.Addressed (s : KeySource) (m : KeyMemory) (token : List Char) : Prop :=
  ∀ kid, Token.Names token kid →
    s.keyId = some kid ∨ (s.keyId = none ∧ ∀ key n, s.Provides m key n → key.kid = .str kid)

theorem KeySource.Provides.kid {s : KeySource} {m n : KeyMemory} {key : PublishedKey} {k : Text}
    (provided : s.Provides m key n) (reached : s.Reaches .empty m) (configured : s.keyId = some k) :
    key.kid = .str k := by
  have later : s.Reaches .empty n := reached.trans provided.reaches
  exact later.keptSince.kid configured provided.entry

namespace TokenCache

variable {algorithms : List String} {now : Value} {token : Text} {key : PublishedKey}
  {m n : KeyMemory} {claims : Members}

theorem isCurrent_eq_true_iff : isCurrent now claims = .ok true ↔ Live now claims := by
  unfold isCurrent Live
  cases Members.get? claims "exp" with
  | none => simp
  | some exp =>
    cases number : Rule.isNumber exp with
    | false => simp [number]
    | true => cases order : now.lt? exp <;> simp [number, order]

theorem judge_eq_true_iff :
    judge algorithms now token key m = (.ok true, n) ↔
      m = n ∧ ∃ claims,
        Verified algorithms key.key token claims ∧ Live now claims := by
  simp only [← decodeText_eq_ok_iff, ← isCurrent_eq_true_iff]
  unfold judge
  cases Token.decodeText algorithms key.key token with
  | ok claims => simp [and_comm]
  | error refusal => cases refusal <;> simp

theorem isFresh_eq_true_iff {keys : KeySource} :
    isFresh keys algorithms now (some token) m = (.ok true, n) ↔
      ∃ claims, (∃ key, keys.Provides m key n ∧
        Verified algorithms key.key token claims) ∧ Live now claims := by
  constructor
  · intro fresh
    rcases looked : keys.lookup none m with ⟨fault | key, o⟩
    · simp only [isFresh, looked] at fresh
      cases fresh
    · obtain ⟨_, provided, _⟩ := KeySource.lookup_eq_ok_iff.mp looked
      rw [isFresh_eq_judge provided] at fresh
      obtain ⟨rfl, claims, verified, live⟩ := judge_eq_true_iff.mp fresh
      exact ⟨claims, ⟨key, provided, verified⟩, live⟩
  · rintro ⟨claims, ⟨key, provided, verified⟩, live⟩
    rw [isFresh_eq_judge provided]
    exact judge_eq_true_iff.mpr ⟨rfl, claims, verified, live⟩

end TokenCache

namespace Validator

variable {v : Validator} {token : List Char} {m n : KeyMemory} {key : PublishedKey}
  {claims : Members}

/-- The key found first is dropped exactly if the token is forged under it. -/
theorem Finds.forget_mem_uses_iff (found : v.Finds token m key n) :
    KeyUse.forget ∈ v.uses token m ↔ Token.Forged v.algorithms key.key token := by
  rw [← under_eq_wrongSignature_iff]
  simp only [uses, found.familiar, found.attempt_eq]
  cases v.under token key <;> simp

theorem decodeClaims_eq_ok_undropped_iff :
    (v.decodeClaims token m = (.ok claims, n) ∧ KeyUse.forget ∉ v.uses token m) ↔
      ∃ key, v.Finds token m key n ∧ Token.Authentic v.algorithms key.key token claims := by
  rw [decodeClaims_eq_ok_iff]
  constructor
  · rintro ⟨⟨key, decided, authentic⟩, undropped⟩
    cases decided with
    | first found _ => exact ⟨key, found, authentic⟩
    | refreshed found forged _ =>
      -- The second key is not asked for before the first one is dropped.
      exact absurd (found.forget_mem_uses_iff.mpr forged) undropped
  · rintro ⟨key, found, authentic⟩
    have trusted := authentic.not_forged
    exact ⟨⟨key, .first found trusted, authentic⟩, mt found.forget_mem_uses_iff.mp trusted⟩

/-- For a token that does not name another key, the name does not matter to which key is found. -/
theorem finds_iff_provides (reached : v.keys.Reaches .empty m)
    (addressed : v.keys.Addressed m token) :
    v.Finds token m key n ↔ v.keys.Provides m key n := by
  refine ⟨Finds.provided, fun provided => ?_⟩
  cases configured : v.keys.keyId with
  | none =>
    refine finds_of_unnamed configured provided ?_
    intro kid told
    rcases addressed kid (Token.keyName?_eq_some_iff.mp told) with impossible | ⟨_, same⟩
    · rw [configured] at impossible
      cases impossible
    · exact same key n provided
  | some k =>
    -- Whatever is kept or fetched has the configured name, so it answers to that name.
    refine finds_of_named configured ?_ provided (provided.kid reached configured)
    intro kid names
    rcases addressed kid names with same | ⟨impossible, _⟩
    · rw [configured] at same
      exact (Option.some.inj same).symm
    · rw [configured] at impossible
      cases impossible

/-- From any memory that can come about, a token that does not name another key is fresh for a
connector that keeps it exactly if a connector that is sent it accepts it without dropping a key,
and its claims are not expired; and the same fetches are made. -/
theorem fresh_iff_accepted {token : String} {now : Value} (reached : v.keys.Reaches .empty m)
    (addressed : v.keys.Addressed m token.toList) :
    TokenCache.isFresh v.keys v.algorithms now (some token) m = (.ok true, n) ↔
      ∃ claims, v.decodeClaims token.toList m = (.ok claims, n) ∧
        KeyUse.forget ∉ v.uses token.toList m ∧ Rule.expiry.Passes now (.object claims) := by
  rw [TokenCache.isFresh_eq_true_iff]
  refine exists_congr fun claims => ?_
  rw [← and_assoc, decodeClaims_eq_ok_undropped_iff, Rule.passes_expiry_iff]
  simp only [finds_iff_provides reached addressed, TokenCache.verified_proper]
  exact Iff.rfl

def timedModulus : String :=
  "vohDXYF6S0gWU3Q3fzsnTRovLimUjlPH2PduozlDPFurXAheJoLbKB67peUsJjDuaN73iJGkpZRF-j3VVZRuhQ"

/-- A token that names the key `k`, and expires when the clock reads nine. -/
def timedToken : String :=
  "eyJhbGciOiJSUzI1NiIsImtpZCI6ImsifQ.eyJleHAiOjl9.qYw6fTAacHzq28ZY8Nr1arMkPvMjhdZhzU4oQPEzmGA" ++
    "Y3WXUTeakbw0CjE1dXNuN2Mcf25mlOjnwZsOb7Ul_hQ"

def named : Validator :=
  ⟨⟨"", some "k", 10, fun _ => setOfModulus timedModulus⟩, [], defaultAlgorithms⟩

theorem timedToken_fresh_and_accepted :
    ∃ claims n,
      TokenCache.isFresh named.keys named.algorithms (.int 8) (some timedToken) .empty =
        (.ok true, n) ∧ n.fetched = 1 ∧ Token.Names timedToken.toList "k" ∧
      named.decodeClaims timedToken.toList .empty = (.ok claims, n) ∧
      Rule.expiry.Passes (.int 8) (.object claims) := by
  have computed :
      let judged := TokenCache.isFresh named.keys named.algorithms (.int 8) (some timedToken) .empty
      judged.1.toOption = some true ∧ judged.2.fetched = 1 ∧
        Token.keyName? timedToken.toList = some "k" := by
    decide +kernel
  rcases judged : TokenCache.isFresh named.keys named.algorithms (.int 8) (some timedToken) .empty
    with ⟨outcome, n⟩
  rw [judged] at computed
  obtain ⟨fresh, fetched, asked⟩ := computed
  obtain rfl := toOption_eq_some_iff.mp fresh
  have addressed : named.keys.Addressed .empty timedToken.toList := by
    intro kid names
    rw [← Token.keyName?_eq_some_iff, asked] at names
    exact .inl names
  obtain ⟨claims, accepted, _, live⟩ := (fresh_iff_accepted (v := named) .refl addressed).mp judged
  exact ⟨claims, n, rfl, fetched, Token.keyName?_eq_some_iff.mp asked, accepted, live⟩

end Validator

end TokenGate
