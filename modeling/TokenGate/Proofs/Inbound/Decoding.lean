import TokenGate.Inbound.Validator
import TokenGate.Proofs.Key.Memory
import TokenGate.Proofs.Token.Authentic

/-! Which key decides on a token, and that it does. The key found first decides, unless the token
is forged under it; it is dropped then, and the key found next has the last word.
-/

set_option autoImplicit false

namespace TokenGate.Validator

structure Finds (v : Validator) (token : List Char) (m : KeyMemory) (key : PublishedKey)
    (n : KeyMemory) : Prop where
  familiar : v.keys.isForeign (Token.keyName? token) = false
  provided : v.keys.Provides m key n
  answers : key.Answers (Token.keyName? token)

/-- A key has the last word on a token, and leaves this memory. -/
inductive Decides (v : Validator) (token : List Char) (m : KeyMemory) :
    PublishedKey → KeyMemory → Prop where
  | first {key : PublishedKey} {n : KeyMemory} : v.Finds token m key n →
      ¬ Token.Forged v.algorithms key.key token → Decides v token m key n
  | refreshed {old key : PublishedKey} {n o : KeyMemory} : v.Finds token m old n →
      Token.Forged v.algorithms old.key token → v.Finds token n.forget key o →
      Decides v token m key o

def verdict (v : Validator) (token : List Char) (key : PublishedKey) : Except Fault Members :=
  match Token.decode v.algorithms key.key token with
  | .ok claims => .ok claims
  | .error .wrongSignature => .error .signatureInvalid
  | .error .invalid => .error .tokenInvalid
  | .error (.crash kind) => .error (.crash kind)

variable {v : Validator} {token : List Char} {m n : KeyMemory} {key : PublishedKey}

theorem finds_iff_lookup :
    v.Finds token m key n ↔ v.keys.lookup (Token.keyName? token) m = (.ok key, n) := by
  rw [KeySource.lookup_eq_ok_iff]
  exact ⟨fun found => ⟨found.familiar, found.provided, found.answers⟩,
    fun ⟨familiar, provided, answers⟩ => ⟨familiar, provided, answers⟩⟩

theorem finds_of_unnamed (unnamed : v.keys.keyId = none) (provided : v.keys.Provides m key n)
    (answers : key.Answers (Token.keyName? token)) : v.Finds token m key n :=
  ⟨KeySource.isForeign_of_unnamed unnamed, provided, answers⟩

theorem finds_of_named {k : Text} (configured : v.keys.keyId = some k)
    (named : ∀ kid, Token.Names token kid → kid = k) (provided : v.keys.Provides m key n)
    (same : key.kid = .str k) : v.Finds token m key n := by
  have asked : ∀ kid, Token.keyName? token = some kid → kid = k :=
    fun kid told => named kid (Token.keyName?_eq_some_iff.mp told)
  refine ⟨(KeySource.isForeign_eq_false_iff configured).mpr asked, provided, ?_⟩
  intro kid told
  rw [same, asked kid told]

theorem Finds.attempt_eq (found : v.Finds token m key n) :
    v.attempt token (Token.keyName? token) m = (v.under token key, n) := by
  simp only [attempt, finds_iff_lookup.mp found]

theorem Finds.lastAttempt_eq (found : v.Finds token m key n) :
    v.lastAttempt token (Token.keyName? token) m = (v.verdict token key, n) := by
  simp only [lastAttempt, found.attempt_eq, under, verdict]
  cases Token.decode v.algorithms key.key token with
  | ok claims => rfl
  | error refusal => cases refusal <;> rfl

theorem under_eq_wrongSignature_iff :
    v.under token key = .wrongSignature ↔ Token.Forged v.algorithms key.key token := by
  rw [← Token.decode_eq_wrongSignature_iff, under]
  cases Token.decode v.algorithms key.key token with
  | ok claims => simp
  | error refusal => cases refusal <;> simp

theorem Decides.decodeClaims_eq (decided : v.Decides token m key n) :
    v.decodeClaims token m = (v.verdict token key, n) := by
  cases decided with
  | first found trusted =>
    have right : Token.decode v.algorithms key.key token ≠ .error .wrongSignature :=
      fun wrong => trusted (Token.decode_eq_wrongSignature_iff.mp wrong)
    simp only [decodeClaims, found.familiar, found.attempt_eq, under, verdict]
    cases decoded : Token.decode v.algorithms key.key token with
    | ok claims => rfl
    | error refusal =>
      cases refusal with
      | wrongSignature => exact absurd decoded right
      | invalid | crash kind => rfl
  | refreshed found forged again =>
    simp only [decodeClaims, found.familiar, found.attempt_eq,
      under_eq_wrongSignature_iff.mpr forged]
    exact again.lastAttempt_eq

/-- No key has the last word on a token: the first look-up ends in a fault, or the one after the
dropping of a key. -/
inductive Keyless (v : Validator) (token : List Char) (m : KeyMemory) :
    Fault → KeyMemory → Prop where
  | first {fault : Fault} {n : KeyMemory} :
      v.keys.lookup (Token.keyName? token) m = (.error fault, n) → Keyless v token m fault n
  | refreshed {old : PublishedKey} {fault : Fault} {n o : KeyMemory} : v.Finds token m old n →
      Token.Forged v.algorithms old.key token →
      v.keys.lookup (Token.keyName? token) n.forget = (.error fault, o) → Keyless v token m fault o

theorem attempt_eq_failed {kid : Option Text} {fault : Fault}
    (failed : v.keys.lookup kid m = (.error fault, n)) :
    v.attempt token kid m = (.failed (withoutKey fault), n) := by
  simp only [attempt, failed]

theorem Keyless.decodeClaims_eq {fault : Fault}
    (familiar : v.keys.isForeign (Token.keyName? token) = false)
    (keyless : v.Keyless token m fault n) :
    v.decodeClaims token m = (.error (withoutKey fault), n) := by
  cases keyless with
  | first failed =>
    simp only [decodeClaims, familiar, attempt_eq_failed failed]
    rfl
  | refreshed found forged failed =>
    simp only [decodeClaims, familiar, found.attempt_eq, under_eq_wrongSignature_iff.mpr forged,
      lastAttempt, attempt_eq_failed failed]
    rfl

theorem decides_or_keyless (v : Validator) (token : List Char) (m : KeyMemory) :
    (∃ key n, v.Decides token m key n) ∨ ∃ fault n, v.Keyless token m fault n := by
  rcases first : v.keys.lookup (Token.keyName? token) m with ⟨fault | key, n⟩
  · exact .inr ⟨fault, n, .first first⟩
  · have found := finds_iff_lookup.mpr first
    -- Only a wrong signature, and no other fault of the token, leads to a second look-up.
    by_cases forged : Token.Forged v.algorithms key.key token
    · rcases again : v.keys.lookup (Token.keyName? token) n.forget with ⟨fault | newer, o⟩
      · exact .inr ⟨fault, o, .refreshed found forged again⟩
      · exact .inl ⟨newer, o, .refreshed found forged (finds_iff_lookup.mpr again)⟩
    · exact .inl ⟨key, n, .first found forged⟩

theorem decodeClaims_eq_foreign (foreign : v.keys.isForeign (Token.keyName? token) = true) :
    v.decodeClaims token m = (.error .foreignKey, m) := by
  rw [decodeClaims]
  exact if_pos foreign

/-- All ends of decoding: the name of a foreign key, the verdict of a key, or no key. -/
theorem decodeClaims_cases (v : Validator) (token : List Char) (m : KeyMemory) :
    (v.keys.isForeign (Token.keyName? token) = true ∧
      v.decodeClaims token m = (.error .foreignKey, m)) ∨
    (∃ key n, v.Decides token m key n ∧ v.decodeClaims token m = (v.verdict token key, n)) ∨
    ∃ fault n, v.Keyless token m fault n ∧
      v.decodeClaims token m = (.error (withoutKey fault), n) := by
  cases told : v.keys.isForeign (Token.keyName? token) with
  | true => exact .inl ⟨rfl, decodeClaims_eq_foreign told⟩
  | false =>
    rcases decides_or_keyless v token m with ⟨key, n, decided⟩ | ⟨fault, n, keyless⟩
    · exact .inr (.inl ⟨key, n, decided, decided.decodeClaims_eq⟩)
    · exact .inr (.inr ⟨fault, n, keyless, keyless.decodeClaims_eq told⟩)

theorem verdict_eq_ok_iff {claims : Members} :
    v.verdict token key = .ok claims ↔ Token.Authentic v.algorithms key.key token claims := by
  rw [← Token.decode_eq_ok_iff, verdict]
  cases Token.decode v.algorithms key.key token with
  | ok other => simp
  | error refusal => cases refusal <;> simp

theorem decodeClaims_eq_ok_iff {claims : Members} :
    v.decodeClaims token m = (.ok claims, n) ↔
      ∃ key, v.Decides token m key n ∧ Token.Authentic v.algorithms key.key token claims := by
  constructor
  · intro accepted
    rcases decodeClaims_cases v token m with
      ⟨_, foreign⟩ | ⟨key, o, decided, settled⟩ | ⟨_, _, _, failed⟩
    · rw [accepted] at foreign
      cases foreign
    · rw [accepted, Prod.mk.injEq] at settled
      obtain ⟨verdict, rfl⟩ := settled
      exact ⟨key, decided, verdict_eq_ok_iff.mp verdict.symm⟩
    · rw [accepted] at failed
      cases failed
  · rintro ⟨key, decided, authentic⟩
    rw [decided.decodeClaims_eq, verdict_eq_ok_iff.mpr authentic]

theorem decodeClaims_subject {claims : Members}
    (decoded : v.decodeClaims token m = (.ok claims, n)) :
    ∃ sender : Option Text, Members.get? claims "sub" = sender.map .str := by
  obtain ⟨_, _, authentic⟩ := decodeClaims_eq_ok_iff.mp decoded
  exact authentic.subject_eq

/-! The memory of the key -/

theorem Decides.entry (decided : v.Decides token m key n) : n.entry = some key := by
  cases decided with
  | first found _ => exact found.provided.entry
  | refreshed _ _ again => exact again.provided.entry

theorem Decides.reaches (decided : v.Decides token m key n) : v.keys.Reaches m n := by
  cases decided with
  | first found _ => exact found.provided.reaches
  | refreshed found _ again =>
    exact (found.provided.reaches.tail .forget).trans again.provided.reaches

theorem Keyless.reaches {fault : Fault} (keyless : v.Keyless token m fault n) :
    v.keys.Reaches m n := by
  cases keyless with
  | first failed => simpa [failed] using v.keys.lookup_reaches (Token.keyName? token) m
  | @refreshed _ _ o _ found _ failed =>
    have later := v.keys.lookup_reaches (Token.keyName? token) o.forget
    rw [failed] at later
    exact (found.provided.reaches.tail .forget).trans later

theorem decodeClaims_reaches (v : Validator) (token : List Char) (m : KeyMemory) :
    v.keys.Reaches m (v.decodeClaims token m).2 := by
  rcases decodeClaims_cases v token m with
    ⟨_, foreign⟩ | ⟨key, n, decided, settled⟩ | ⟨fault, n, keyless, failed⟩
  · rw [foreign]
  · rw [settled]
    exact decided.reaches
  · rw [failed]
    exact keyless.reaches

theorem validate_reaches (v : Validator) (now : Value) (token : List Char) (m : KeyMemory) :
    v.keys.Reaches m (v.validate now token m).2 := by
  have decoded := v.decodeClaims_reaches token m
  rw [validate]
  split
  all_goals
    next same =>
      rw [same] at decoded
      exact decoded

end TokenGate.Validator
