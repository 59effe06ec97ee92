import TokenGate.Token.Decode

/-! What it takes for a token to verify under a key, said without the order in which the reader
looks at things, and how the three ways in which decoding can fail are told apart.
-/

set_option autoImplicit false

namespace TokenGate.Token

structure Asks (allowed : List String) (token : List Char) (t : Unverified)
    (algorithm : Algorithm) : Prop where
  read : unverified? token = some t
  encoded : isDetached t.header = false
  named : ∃ name ∈ allowed, Members.get? t.header "alg" = some (.str name) ∧
    Algorithm.ofName? name = some algorithm

/-- The payload is an object, and subject and name of the token, if they are there, are texts. -/
structure Says (t : Unverified) (claims : Members) : Prop where
  object : jsonObject? t.payload = some claims
  texts : ∀ name ∈ ["sub", "jti"], ∀ v, Members.get? claims name = some v → ∃ s, v = .str s

def Signed (algorithm : Algorithm) (key : Key) (t : Unverified) : Prop :=
  verify algorithm key (Utf8.encode t.signed) t.signature = .ok true

def Authentic (allowed : List String) (key : Key) (token : List Char) (claims : Members) : Prop :=
  ∃ t algorithm, Asks allowed token t algorithm ∧ Signed algorithm key t ∧ Says t claims

def Forged (allowed : List String) (key : Key) (token : List Char) : Prop :=
  ∃ t algorithm, Asks allowed token t algorithm ∧
    verify algorithm key (Utf8.encode t.signed) t.signature = .ok false

theorem algorithm?_eq_some_iff {allowed : List String} {header : Members} {algorithm : Algorithm} :
    algorithm? allowed header = some algorithm ↔
      ∃ name ∈ allowed, Members.get? header "alg" = some (.str name) ∧
        Algorithm.ofName? name = some algorithm := by
  have unnamed : Algorithm.ofName? "" = none := rfl
  unfold algorithm?
  split
  · next name found =>
    constructor
    · intro known
      split at known
      · next usable =>
        exact ⟨name, List.contains_iff_mem.mp usable.2, found, known⟩
      · cases known
    · rintro ⟨other, member, same, known⟩
      rw [found] at same
      cases same
      -- The check for an empty name is idle, as no algorithm has one.
      have nonempty : name ≠ "" := by
        rintro rfl
        rw [unnamed] at known
        cases known
      rw [if_pos ⟨nonempty, List.contains_iff_mem.mpr member⟩]
      exact known
  · next other =>
    constructor
    · intro impossible
      cases impossible
    · rintro ⟨name, _, same, _⟩
      exact absurd same (other name)

theorem hasTextClaims_iff {claims : Members} :
    hasTextClaims claims = true ↔
      ∀ name ∈ ["sub", "jti"], ∀ v, Members.get? claims name = some v → ∃ s, v = .str s := by
  rw [hasTextClaims, List.all_eq_true]
  refine forall₂_congr fun name _ => ?_
  cases Members.get? claims name with
  | none => simp
  | some v => cases v <;> simp [Value.text?]

theorem claims?_eq_some_iff {t : Unverified} {claims : Members} :
    claims? t.payload = some claims ↔ Says t claims := by
  rw [claims?, Option.filter_eq_some_iff, hasTextClaims_iff]
  exact ⟨fun ⟨object, texts⟩ => ⟨object, texts⟩, fun said => ⟨said.object, said.texts⟩⟩

/-- Once a token asks for an algorithm, all hangs on the signature and then on the payload. -/
theorem Asks.decode_eq {allowed : List String} {token : List Char} {t : Unverified}
    {algorithm : Algorithm} (asks : Asks allowed token t algorithm) (key : Key) :
    decode allowed key token =
      match verify algorithm key (Utf8.encode t.signed) t.signature with
      | .error kind => .error (.crash kind)
      | .ok false => .error .wrongSignature
      | .ok true => (claims? t.payload).elim (.error .invalid) .ok := by
  simp only [decode, asks.read, asks.encoded, settle, algorithm?_eq_some_iff.mpr asks.named]
  cases verify algorithm key (Utf8.encode t.signed) t.signature with
  | error kind => rfl
  | ok right =>
    cases right with
    | false => rfl
    | true => cases claims? t.payload <;> rfl

theorem decode_eq_invalid {allowed : List String} {token : List Char}
    (silent : ∀ t algorithm, ¬ Asks allowed token t algorithm) (key : Key) :
    decode allowed key token = .error .invalid := by
  unfold decode
  cases read : unverified? token with
  | none => rfl
  | some t =>
    cases detached : isDetached t.header with
    | true => simp [detached]
    | false =>
      cases named : algorithm? allowed t.header with
      | none => simp [settle, named]
      | some algorithm =>
        exact absurd ⟨read, detached, algorithm?_eq_some_iff.mp named⟩ (silent t algorithm)

theorem decode_cases (allowed : List String) (key : Key) (token : List Char) :
    (∃ claims, Authentic allowed key token claims ∧ decode allowed key token = .ok claims) ∨
    (Forged allowed key token ∧ decode allowed key token = .error .wrongSignature) ∨
    (∃ t algorithm kind, Asks allowed token t algorithm ∧
      verify algorithm key (Utf8.encode t.signed) t.signature = .error kind ∧
      decode allowed key token = .error (.crash kind)) ∨
    decode allowed key token = .error .invalid := by
  by_cases asked : ∃ t algorithm, Asks allowed token t algorithm
  · obtain ⟨t, algorithm, asks⟩ := asked
    have decoded := asks.decode_eq key
    cases verdict : verify algorithm key (Utf8.encode t.signed) t.signature with
    | error kind =>
      rw [verdict] at decoded
      exact .inr (.inr (.inl ⟨t, algorithm, kind, asks, verdict, decoded⟩))
    | ok right =>
      cases right with
      | false =>
        rw [verdict] at decoded
        exact .inr (.inl ⟨⟨t, algorithm, asks, verdict⟩, decoded⟩)
      | true =>
        rw [verdict] at decoded
        cases payload : claims? t.payload with
        | none =>
          rw [payload] at decoded
          exact .inr (.inr (.inr decoded))
        | some claims =>
          rw [payload] at decoded
          have said := claims?_eq_some_iff.mp payload
          exact .inl ⟨claims, ⟨t, algorithm, asks, verdict, said⟩, decoded⟩
  · -- A token that asks for nothing is refused before the key is looked at.
    have silent : ∀ t algorithm, ¬ Asks allowed token t algorithm :=
      fun t algorithm asks => asked ⟨t, algorithm, asks⟩
    exact .inr (.inr (.inr (decode_eq_invalid silent key)))

theorem decode_eq_ok_iff {allowed : List String} {key : Key} {token : List Char}
    {claims : Members} :
    decode allowed key token = .ok claims ↔ Authentic allowed key token claims := by
  constructor
  · intro decoded
    rcases decode_cases allowed key token with
      ⟨found, authentic, same⟩ | ⟨_, other⟩ | ⟨_, _, _, _, _, other⟩ | other
    · rw [decoded] at same
      cases same
      exact authentic
    all_goals
      rw [decoded] at other
      cases other
  · rintro ⟨t, algorithm, asks, signed, said⟩
    rw [asks.decode_eq key, signed, claims?_eq_some_iff.mpr said]
    rfl

theorem decode_eq_wrongSignature_iff {allowed : List String} {key : Key} {token : List Char} :
    decode allowed key token = .error .wrongSignature ↔ Forged allowed key token := by
  constructor
  · intro decoded
    rcases decode_cases allowed key token with
      ⟨_, _, other⟩ | ⟨forged, _⟩ | ⟨_, _, _, _, _, other⟩ | other
    · rw [decoded] at other
      cases other
    · exact forged
    all_goals
      rw [decoded] at other
      cases other
  · rintro ⟨t, algorithm, asks, wrong⟩
    rw [asks.decode_eq key, wrong]

theorem Authentic.subject_text {allowed : List String} {key : Key} {token : List Char}
    {claims : Members} (authentic : Authentic allowed key token claims) {v : Value}
    (subject : Members.get? claims "sub" = some v) : ∃ s, v = .str s := by
  obtain ⟨_, _, _, _, said⟩ := authentic
  exact said.texts "sub" (by simp) v subject

theorem Authentic.subject_eq {allowed : List String} {key : Key} {token : List Char}
    {claims : Members} (authentic : Authentic allowed key token claims) :
    ∃ sender : Option Text, Members.get? claims "sub" = sender.map .str := by
  cases named : Members.get? claims "sub" with
  | none => exact ⟨none, rfl⟩
  | some v =>
    obtain ⟨sub, rfl⟩ := authentic.subject_text named
    exact ⟨some sub, rfl⟩

def Names (token : List Char) (kid : Text) : Prop :=
  ∃ t, unverified? token = some t ∧ Members.get? t.header "kid" = some (.str kid) ∧ kid ≠ ""

theorem keyName?_eq_some_iff {token : List Char} {kid : Text} :
    keyName? token = some kid ↔ Names token kid := by
  unfold keyName? Names
  cases unverified? token with
  | none => simp
  | some t =>
    simp only [Option.bind_some, Option.some.injEq, exists_eq_left']
    split
    · next s found =>
      split
      · next empty => simp [found, empty, eq_comm]
      · next named =>
        simp only [found, Option.some.injEq, Value.str.injEq]
        constructor
        · rintro rfl
          exact ⟨rfl, named⟩
        · exact fun same => same.1
    · next other =>
      constructor
      · intro impossible
        cases impossible
      · rintro ⟨found, _⟩
        exact absurd found (other kid)

end TokenGate.Token
