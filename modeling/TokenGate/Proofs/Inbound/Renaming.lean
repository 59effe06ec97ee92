import TokenGate.Proofs.Inbound.Rotation

/-! What happens to tokens when the key is changed, and no key is wanted by name. A kept key of
another name than a token asks for is not taken for it, and it is not dropped for that either.
-/

set_option autoImplicit false

namespace TokenGate.Validator

variable {v : Validator} {token : List Char} {m n : KeyMemory} {old next key : PublishedKey}
  {claims : Members}

theorem accepted_by_either (found : v.Finds token m old m) (fetched : v.Finds token m.forget next n)
    (alike : ∀ algorithm, Token.Suits algorithm next.key → Token.Suits algorithm old.key)
    (authentic : Token.Authentic v.algorithms next.key token claims) :
    (v.decodeClaims token m = (.ok claims, m) ∧
      Token.Authentic v.algorithms old.key token claims) ∨
    (v.decodeClaims token m = (.ok claims, n) ∧ Token.Forged v.algorithms old.key token) := by
  rcases authentic.authentic_or_forged alike with still | forged
  · have decided := Decides.first found still.not_forged
    exact .inl ⟨decodeClaims_eq_ok_iff.mpr ⟨old, decided, still⟩, still⟩
  · -- The wrong signature costs the kept key, and the one found next has the last word.
    have decided := Decides.refreshed found forged fetched
    exact .inr ⟨decodeClaims_eq_ok_iff.mpr ⟨next, decided, authentic⟩, forged⟩

theorem decodeClaims_of_renamed (unnamed : v.keys.keyId = none) (entry : m.entry = some old)
    {kid : Text} (names : Token.Names token kid) (renamed : old.kid ≠ .str kid) :
    v.decodeClaims token m = (.error .noKey, m) := by
  have asked := Token.keyName?_eq_some_iff.mpr names
  have familiar : v.keys.isForeign (Token.keyName? token) = false :=
    KeySource.isForeign_of_unnamed unnamed
  have refused : KeySource.named (some kid) old = .error (.keyNotFound (some kid)) := by
    simp [KeySource.named, renamed]
  -- The kept key is looked at, so there is nothing to fetch.
  have failed : v.keys.lookup (Token.keyName? token) m = (.error (.keyNotFound (some kid)), m) := by
    rw [KeySource.lookup_eq_bind familiar, (KeySource.Provides.kept entry).current_eq, asked]
    exact congrArg (·, m) refused
  exact (Keyless.first failed).decodeClaims_eq familiar

-- The token names the key `k`, and the kept key is called `j`: no fetch is made.
example :
    let v : Validator := ⟨⟨"", none, 10, fun _ => .failed⟩, [], defaultAlgorithms⟩
    let m : KeyMemory := ⟨some ⟨.str "j", .str "RSA", "RS256", .null, .rsaPublic ⟨15, 3⟩⟩, 1⟩
    (v.decodeClaims "eyJhbGciOiJSUzI1NiIsImtpZCI6ImsifQ.e30.AA".toList m).2.fetched = 1 := by
  decide +kernel

/-- Let no key be wanted by name, and let the kept key, if there is one, be public. Then a token of
the key that is served next is accepted at once, with one fetch at most, if it names no key or one
that both keys are called by. If the kept key is not called so, the token is refused, and the
memory stays. -/
theorem accepted_unless_renamed (unnamed : v.keys.keyId = none)
    (held : ∀ old, m.entry = some old → ∃ pub, old.key = .rsaPublic pub)
    (served : v.keys.Serves (v.keys.script m.fetched) next) {pub : Rsa.PublicKey}
    (family : next.key = .rsaPublic pub)
    (named : ∀ kid, Token.Names token kid → next.kid = .str kid)
    (authentic : Token.Authentic v.algorithms next.key token claims) :
    ((∀ old kid, m.entry = some old → Token.Names token kid → old.kid = .str kid) →
      ∃ n, v.decodeClaims token m = (.ok claims, n) ∧
        ((∃ old, m.entry = some old ∧ n = m ∧
            Token.Authentic v.algorithms old.key token claims) ∨
          (n = ⟨some next, m.fetched + 1⟩ ∧
            ∀ old, m.entry = some old → Token.Forged v.algorithms old.key token))) ∧
    ∀ old kid, m.entry = some old → Token.Names token kid → old.kid ≠ .str kid →
      v.decodeClaims token m = (.error .noKey, m) := by
  have fetched : v.Finds token m.forget next ⟨some next, m.fetched + 1⟩ :=
    finds_of_unnamed unnamed (.fetched rfl served)
      fun kid told => named kid (Token.keyName?_eq_some_iff.mp told)
  refine ⟨?_, fun old kid entry => decodeClaims_of_renamed unnamed entry⟩
  intro same
  cases entry : m.entry with
  | none =>
    -- Nothing is kept, so the served key is fetched at the first look-up already.
    have empty : m.forget = m := by rw [KeyMemory.forget, ← entry]
    rw [empty] at fetched
    have decided := Decides.first fetched authentic.not_forged
    refine ⟨_, decodeClaims_eq_ok_iff.mpr ⟨next, decided, authentic⟩, .inr ⟨rfl, ?_⟩⟩
    intro old impossible
    cases impossible
  | some old =>
    obtain ⟨other, suited⟩ := held old entry
    have found : v.Finds token m old m := finds_of_unnamed unnamed (.kept entry)
      fun kid told => same old kid entry (Token.keyName?_eq_some_iff.mp told)
    have alike : ∀ algorithm, Token.Suits algorithm next.key → Token.Suits algorithm old.key := by
      rw [family, suited]
      exact fun _ => Token.Suits.of_rsaPublic
    rcases accepted_by_either found fetched alike authentic with
      ⟨accepted, still⟩ | ⟨accepted, forged⟩
    · exact ⟨m, accepted, .inl ⟨old, rfl, rfl, still⟩⟩
    · refine ⟨_, accepted, .inr ⟨rfl, ?_⟩⟩
      rintro _ ⟨⟩
      exact forged

def renewed : Validator :=
  ⟨⟨"", none, 10, fun _ => setOfModulus newerModulus⟩, [], defaultAlgorithms⟩

def olderKept (kid : Text) : KeyMemory :=
  ⟨some ⟨.str kid, .str "RSA", "RS256", .null, .rsaPublic (keyOfModulus olderModulus)⟩, 1⟩

theorem newerToken_served : ∃ next claims,
    renewed.keys.Serves (setOfModulus newerModulus) next ∧
    next.key = .rsaPublic (keyOfModulus newerModulus) ∧
    (∀ kid, Token.Names newerToken.toList kid → next.kid = .str kid) ∧
    Token.Names newerToken.toList "k" ∧
    Token.Authentic renewed.algorithms next.key newerToken.toList claims := by
  have given : (renewed.keys.ofOutcome (setOfModulus newerModulus)).toOption.map
      (fun key => (key.kid.isText "k", key.key)) =
        some (true, .rsaPublic (keyOfModulus newerModulus)) := by
    decide +kernel
  have asked : Token.keyName? newerToken.toList = some "k" := by decide +kernel
  have verified : (Token.decode defaultAlgorithms (.rsaPublic (keyOfModulus newerModulus))
      newerToken.toList).toOption.isSome = true := by
    decide +kernel
  obtain ⟨next, served, same⟩ := Option.map_eq_some_iff.mp given
  rw [toOption_eq_some_iff, KeySource.ofOutcome_eq_ok_iff] at served
  rw [Prod.mk.injEq, Value.isText_iff] at same
  obtain ⟨claims, decoded⟩ := Option.isSome_iff_exists.mp verified
  rw [toOption_eq_some_iff, Token.decode_eq_ok_iff, ← same.2] at decoded
  refine ⟨next, claims, served, same.2, ?_, Token.keyName?_eq_some_iff.mp asked, decoded⟩
  intro kid names
  rw [← Token.keyName?_eq_some_iff, asked] at names
  rw [same.1, Option.some.inj names]

theorem newerToken_accepted_unnamed :
    ∃ claims n, renewed.decodeClaims newerToken.toList (olderKept "k") = (.ok claims, n) := by
  obtain ⟨next, claims, served, newer, named, names, authentic⟩ := newerToken_served
  have held : ∀ old, (olderKept "k").entry = some old → ∃ pub, old.key = .rsaPublic pub := by
    rintro old ⟨⟩
    exact ⟨_, rfl⟩
  obtain ⟨accepted, _⟩ := accepted_unless_renamed (v := renewed) rfl held served newer named
    authentic
  obtain ⟨n, decoded, _⟩ := accepted fun old kid entry told => by
    cases entry
    rw [← named kid told, named "k" names]
  exact ⟨claims, n, decoded⟩

/-- The kept key is called otherwise, and so the newer token is refused, though the key that is
served next verifies it and is called as it says. -/
theorem newerToken_refused :
    let m := olderKept "j"
    renewed.keys.keyId = none ∧
    (∃ old, m.entry = some old ∧ old.key = .rsaPublic (keyOfModulus olderModulus)) ∧
    (∃ next claims, renewed.keys.Serves (renewed.keys.script m.fetched) next ∧
      next.key = .rsaPublic (keyOfModulus newerModulus) ∧
      (∀ kid, Token.Names newerToken.toList kid → next.kid = .str kid) ∧
      Token.Authentic renewed.algorithms next.key newerToken.toList claims) ∧
    renewed.decodeClaims newerToken.toList m = (.error .noKey, m) := by
  intro m
  obtain ⟨next, claims, served, newer, named, names, authentic⟩ := newerToken_served
  have renamed : Value.str "j" ≠ .str "k" := by simp
  exact ⟨rfl, ⟨_, rfl, rfl⟩, ⟨next, claims, served, newer, named, authentic⟩,
    decodeClaims_of_renamed rfl rfl names renamed⟩

end TokenGate.Validator
