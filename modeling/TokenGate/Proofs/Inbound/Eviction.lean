import TokenGate.Proofs.Site.Economy

/-! What a token from outside can cost: how many fetches its decoding makes, and whether the kept
key survives it. A key is dropped for a wrong signature and for nothing else, and then it is looked
up once more.
-/

set_option autoImplicit false

namespace TokenGate.Validator

variable {v : Validator} {token : List Char} {m n o : KeyMemory} {old : PublishedKey}

/-- The first attempt comes to a wrong signature: this key is found, and the token is forged under
it. -/
structure Mismatch (v : Validator) (token : List Char) (m : KeyMemory) (old : PublishedKey)
    (o : KeyMemory) : Prop where
  found : v.Finds token m old o
  forged : Token.Forged v.algorithms old.key token

theorem Mismatch.uses_eq (mismatch : v.Mismatch token m old o) :
    v.uses token m =
      [.lookup (Token.keyName? token), .forget, .lookup (Token.keyName? token)] := by
  have first := mismatch.found.attempt_eq
  rw [under_eq_wrongSignature_iff.mpr mismatch.forged] at first
  simp only [uses, mismatch.found.familiar, first, Bool.false_eq_true, if_false]

theorem uses_of_matched (familiar : v.keys.isForeign (Token.keyName? token) = false)
    (matched : ∀ old o, ¬ v.Mismatch token m old o) :
    v.uses token m = [.lookup (Token.keyName? token)] := by
  simp only [uses, familiar, Bool.false_eq_true, if_false]
  split
  · next wrong =>
    -- Only under a key that was found can a signature be wrong.
    rcases looked : v.keys.lookup (Token.keyName? token) m with ⟨fault | key, o⟩
    · rw [attempt_eq_failed looked] at wrong
      cases wrong
    · have found := finds_iff_lookup.mpr looked
      rw [found.attempt_eq] at wrong
      exact absurd ⟨found, under_eq_wrongSignature_iff.mp wrong⟩ (matched key o)
  · rfl
  · rfl

theorem uses_cases (v : Validator) (token : List Char) (m : KeyMemory) :
    (v.uses token m = [] ∧ v.keys.isForeign (Token.keyName? token) = true) ∨
    (v.uses token m = [.lookup (Token.keyName? token)] ∧ ∀ old o, ¬ v.Mismatch token m old o) ∨
    (v.uses token m =
      [.lookup (Token.keyName? token), .forget, .lookup (Token.keyName? token)] ∧
      ∃ old o, v.Mismatch token m old o) := by
  cases told : v.keys.isForeign (Token.keyName? token) with
  | true => exact .inl ⟨by simp only [uses, told, if_true], rfl⟩
  | false =>
    by_cases mismatched : ∃ old o, v.Mismatch token m old o
    · obtain ⟨old, o, mismatch⟩ := mismatched
      exact .inr (.inr ⟨mismatch.uses_eq, old, o, mismatch⟩)
    · have matched : ∀ old o, ¬ v.Mismatch token m old o :=
        fun old o mismatch => mismatched ⟨old, o, mismatch⟩
      exact .inr (.inl ⟨uses_of_matched told matched, matched⟩)

theorem Mismatch.decodeClaims_memory_eq (mismatch : v.Mismatch token m old o) :
    (v.decodeClaims token m).2 =
      ⟨(v.keys.ofOutcome (v.keys.script o.fetched)).toOption, o.fetched + 1⟩ := by
  have first : (v.keys.lookup (Token.keyName? token) m).2 = o := by
    rw [finds_iff_lookup.mp mismatch.found]
  have dropped : o.forget.entry = none := rfl
  rw [decodeClaims_memory, mismatch.uses_eq]
  simp only [KeySource.useAll_cons, KeySource.useAll_nil, KeySource.use, first]
  exact KeySource.lookup_of_missing mismatch.found.familiar dropped

theorem decodeClaims_memory_of_matched (matched : ∀ old o, ¬ v.Mismatch token m old o) :
    (v.decodeClaims token m).2 = (v.keys.lookup (Token.keyName? token) m).2 := by
  rw [decodeClaims_memory]
  rcases uses_cases v token m with ⟨unused, foreign⟩ | ⟨once, _⟩ | ⟨_, old, o, mismatch⟩
  · rw [unused, KeySource.lookup_eq_foreign foreign, KeySource.useAll_nil]
  · rw [once, KeySource.useAll_cons, KeySource.useAll_nil, KeySource.use]
  · exact absurd mismatch (matched old o)

theorem Mismatch.memory_of_kept {kept : PublishedKey} (mismatch : v.Mismatch token m old o)
    (held : m.entry = some kept) : o = m ∧ old = kept := by
  obtain ⟨same, unmoved⟩ := mismatch.found.provided.unique (.kept held)
  exact ⟨unmoved, same⟩

theorem decodeClaims_fetched_le (v : Validator) (token : List Char) (m : KeyMemory) :
    (v.decodeClaims token m).2.fetched ≤ m.fetched + 2 := by
  have first := v.keys.lookup_fetched_le (Token.keyName? token) m
  by_cases mismatched : ∃ old o, v.Mismatch token m old o
  · obtain ⟨old, o, mismatch⟩ := mismatched
    rw [finds_iff_lookup.mp mismatch.found] at first
    rw [mismatch.decodeClaims_memory_eq]
    exact Nat.succ_le_succ first
  · rw [decodeClaims_memory_of_matched fun old o mismatch => mismatched ⟨old, o, mismatch⟩]
    omega

theorem decodeClaims_memory_of_kept {kept : PublishedKey} (held : m.entry = some kept)
    (matched : ¬ v.Mismatch token m kept m) : (v.decodeClaims token m).2 = m := by
  have never : ∀ old o, ¬ v.Mismatch token m old o := by
    intro old o mismatch
    obtain ⟨rfl, rfl⟩ := mismatch.memory_of_kept held
    exact matched mismatch
  have untouched : (v.keys.lookup (Token.keyName? token) m).2 = m := KeySource.lookup_of_kept held
  exact (decodeClaims_memory_of_matched never).trans untouched

theorem decodeClaims_fetched_le_of_kept {kept : PublishedKey} (held : m.entry = some kept) :
    (v.decodeClaims token m).2.fetched ≤ m.fetched + 1 := by
  by_cases mismatch : v.Mismatch token m kept m
  · -- The first look-up finds the kept key, and only the second one fetches.
    exact Nat.le_of_eq (congrArg KeyMemory.fetched mismatch.decodeClaims_memory_eq)
  · rw [decodeClaims_memory_of_kept held mismatch]
    exact Nat.le_succ m.fetched

/-- Decoding looks the key up once at most, and a second time only if the token is forged under the
key found first, which is dropped in between. It makes two fetches at most, and one if a key is
kept. A kept key under which the token is not forged stays, and no fetch is made. After a forged
token there is kept what comes of the one fetch that follows. -/
theorem key_kept_unless_forged (v : Validator) (token : List Char) (m : KeyMemory) :
    let kid := Token.keyName? token
    let after := (v.decodeClaims token m).2
    after = v.keys.useAll m (v.uses token m) ∧
    (v.uses token m = [] ∨ v.uses token m = [.lookup kid] ∨
      v.uses token m = [.lookup kid, .forget, .lookup kid] ∧
        ∃ old o, v.Mismatch token m old o) ∧
    after.fetched ≤ m.fetched + 2 ∧
    (∀ kept, m.entry = some kept →
      after.fetched ≤ m.fetched + 1 ∧
      (¬ v.Mismatch token m kept m → after = m)) ∧
    ∀ old o, v.Mismatch token m old o →
      (∀ kept, m.entry = some kept → kept = old ∧ o = m) ∧
      after = ⟨(v.keys.ofOutcome (v.keys.script o.fetched)).toOption, o.fetched + 1⟩ := by
  intro kid after
  refine ⟨decodeClaims_memory token, ?_, v.decodeClaims_fetched_le token m, ?_, ?_⟩
  · rcases uses_cases v token m with ⟨unused, _⟩ | ⟨once, _⟩ | twice
    · exact .inl unused
    · exact .inr (.inl once)
    · exact .inr (.inr twice)
  · intro kept held
    exact ⟨decodeClaims_fetched_le_of_kept held, decodeClaims_memory_of_kept held⟩
  · intro old o mismatch
    -- A kept key is the one that is found, without a fetch.
    refine ⟨fun kept held => ?_, mismatch.decodeClaims_memory_eq⟩
    obtain ⟨unmoved, same⟩ := mismatch.memory_of_kept held
    exact ⟨same.symm, unmoved⟩

def cause? : Except Token.Refusal Members → Option Token.Refusal
  | .ok _ => none
  | .error cause => some cause

theorem cause?_eq_some_iff {decoded : Except Token.Refusal Members} {cause : Token.Refusal} :
    cause? decoded = some cause ↔ decoded = .error cause := by
  cases decoded <;> simp [cause?]

def isolated : Validator := ⟨⟨"", none, 10, fun _ => .failed⟩, [], ["HS256"]⟩

def oldSecret : PublishedKey := ⟨.null, .str "oct", "HS256", .null, .secret [0x6f, 0x6e, 0x65]⟩

def strayToken : List Char :=
  "eyJhbGciOiJIUzI1NiJ9.eyJleHAiOjl9.GiYnb-x3mE50MPnamgOsqApTDbfUrp7mgAwAmFrRfHA".toList

/-- The token costs the kept secret, though no other key is to be had. -/
theorem strayToken_evicts :
    let m : KeyMemory := ⟨some oldSecret, 4⟩
    isolated.Mismatch strayToken m oldSecret m ∧
    isolated.uses strayToken m = [.lookup none, .forget, .lookup none] ∧
    (isolated.decodeClaims strayToken m).2 = ⟨none, 5⟩ := by
  intro m
  have computed : Token.keyName? strayToken = none ∧
      cause? (Token.decode isolated.algorithms oldSecret.key strayToken) =
        some .wrongSignature := by
    decide +kernel
  obtain ⟨unnamed, wrong⟩ := computed
  have found : isolated.Finds strayToken m oldSecret m := by
    refine finds_of_unnamed rfl (.kept rfl) ?_
    intro kid told
    cases unnamed.symm.trans told
  have forged : Token.Forged isolated.algorithms oldSecret.key strayToken := by
    rw [← Token.decode_eq_wrongSignature_iff]
    exact cause?_eq_some_iff.mp wrong
  have mismatch : isolated.Mismatch strayToken m oldSecret m := ⟨found, forged⟩
  obtain ⟨_, _, _, _, refreshed⟩ := key_kept_unless_forged isolated strayToken m
  refine ⟨mismatch, ?_, (refreshed oldSecret m mismatch).2⟩
  rw [mismatch.uses_eq, unnamed]

end TokenGate.Validator
