import TokenGate.Proofs.Identity.Signing
import TokenGate.Proofs.Json.Octets
import TokenGate.Proofs.Number.Truncation
import TokenGate.Proofs.Outbound.Outcomes
import TokenGate.Proofs.Token.Segment
import TokenGate.Token.Header

/-! What an assertion says to whoever reads it. Its segments are read back as the header and the
claims that were written, whatever the key identifiers are and however large the times.
-/

set_option autoImplicit false

namespace TokenGate

inductive Value.Clock : Value → ℚ → Prop where
  | int (n : Int) : Clock (.int n) n
  | float {x : Binary64} {q : ℚ} : x.extended? = some (.number q) → Clock (.float x) q

theorem Value.Clock.instant {now : Value} {q : ℚ} (clock : now.Clock q) :
    now.Instant (whole q) := by
  cases clock with
  | int n =>
    rw [whole_intCast]
    exact .int n
  | float place => exact .float (Binary64.truncate?_eq place)

namespace Token

def object? (segment : List Char) : Option Members := (Compact.segment? segment).bind jsonObject?

theorem object?_segment {ms : Members} (legible : Json.Legible Json.plain.depth (.object ms)) :
    object? (Compact.segment (Utf8.encode (Json.write (.object ms)))) = some ms := by
  rw [object?, Compact.segment?_segment, Option.bind_some, jsonObject?,
    Json.readBytes_write legible]

end Token

namespace Identity

variable {i : Identity} {k : Rsa.PrivateKey} {now : Value} {q : ℚ} {start lifetime : Int}

theorem legible_assertionHeader : Json.Legible Json.plain.depth assertionHeader := by
  have distinct : [Text.proper "alg", .proper "typ"].Nodup := by decide
  refine .object distinct (by simp) ?_
  simp only [List.forall_mem_cons]
  exact ⟨.str _, .str _, List.forall_mem_nil _⟩

theorem legible_assertionClaims (name : String) (affords : Affords k start lifetime) :
    Json.Legible Json.plain.depth (assertionClaims name start lifetime) := by
  have distinct : (["@context", "@type", "iss", "sub", "aud", "iat", "nbf", "exp"].map
      Text.proper).Nodup := by decide
  refine .object distinct (by simp) ?_
  simp only [List.forall_mem_cons]
  exact ⟨.str _, .str _, .str _, .str _, .str _, .int affords.begins, .int affords.begins,
    .int affords.ends, List.forall_mem_nil _⟩

theorem signAssertion_eq_ok {claims : Value} {text : List Char}
    (signed : signAssertion (.rsa k) claims = .ok text) :
    let input := Compact.signingInput (Json.write assertionHeader) (Json.write claims)
    ∃ made, Rsa.sign? .sha256 k (Utf8.encode input) = some made ∧
      text = Compact.withSignature input made := by
  intro input
  unfold signAssertion at signed
  cases made : Rsa.sign? .sha256 k (Utf8.encode input) with
  | none => simp [input, made] at signed
  | some signature =>
    simp only [input] at made
    simp only [made, Except.ok.injEq] at signed
    exact ⟨signature, rfl, signed.symm⟩

/-- An assertion in three segments, and what is read from each of them. -/
structure Conveys (text : String) (k : Rsa.PrivateKey) (name : String) (start lifetime : Int)
    (header payload signature : List Char) : Prop where
  segments : text.toList.splitOn '.' = [header, payload, signature]
  urlSafe : ∀ c ∈ header ++ payload ++ signature, Compact.UrlSafe c
  algorithm : Token.object? header = some
    ([("alg", .str "RS256"), ("typ", .str "JWT")] : Members)
  claims : Token.object? payload = some
    ([("@context", .str "https://w3id.org/idsa/contexts/context.jsonld"),
      ("@type", .str "ids:DatRequestToken"), ("iss", .str name), ("sub", .str name),
      ("aud", .str "idsc:IDS_CONNECTORS_ALL"), ("iat", .int start), ("nbf", .int start),
      ("exp", .int (start + lifetime))] : Members)
  /-- It is signed as far as the last dot. -/
  signed : ∃ made, Compact.segment? signature = some made ∧
    Rsa.sign? .sha256 k (Utf8.encode (header ++ '.' :: payload)) = some made

theorem conveys_of_signAssertion {name : String} {text : List Char}
    (affords : Affords k start lifetime)
    (signed : signAssertion (.rsa k) (assertionClaims name start lifetime) = .ok text) :
    ∃ header payload signature,
      Conveys (String.ofList text) k name start lifetime header payload signature := by
  obtain ⟨made, signs, shape⟩ := signAssertion_eq_ok signed
  refine ⟨_, _, _, ?_, ?_, Token.object?_segment legible_assertionHeader,
    Token.object?_segment (legible_assertionClaims name affords),
    made, Compact.segment?_segment made, signs⟩
  · rw [String.toList_ofList, shape, Compact.splitOn_token]
    rfl
  · simp only [List.forall_mem_append]
    exact ⟨⟨fun _ => Compact.urlSafe_of_mem_segment, fun _ => Compact.urlSafe_of_mem_segment⟩,
      fun _ => Compact.urlSafe_of_mem_segment⟩

/-- An identity with an RSA key and a readable certificate that names it makes an assertion if both
times can be written and the key has room. The assertion says who made it, at which whole second,
and until when it holds. -/
theorem assertion_conveys {subject authority : Bytes}
    (names : i.certificate.Names subject authority)
    (readable : i.certificate.Readable) (rsa : i.key = .rsa k) (clock : now.Clock q)
    (lifetime : Int) :
    (Affords k (whole q) lifetime → ∃ text name header payload signature,
      i.assertion now lifetime = .ok text ∧ i.connectorName = .ok name ∧
      Conveys text k name (whole q) lifetime header payload signature) ∧
    (¬ Affords k (whole q) lifetime →
      ∃ fault, i.assertion now lifetime = .error fault ∧ fault.kind = .value) ∧
    (0 ≤ q → (whole q : ℚ) ≤ q ∧ q < whole q + 1) := by
  refine ⟨fun affords => ?_, assertion_of_not_affords names readable rsa clock.instant, whole_le⟩
  obtain ⟨text, signed⟩ := signAssertion_of_room affords.room
    (assertionClaims (String.ofList (name subject authority)) (whole q) lifetime)
  obtain ⟨header, payload, signature, conveyed⟩ := conveys_of_signAssertion affords signed
  refine ⟨_, _, header, payload, signature, ?_, connectorName_of_names names readable, conveyed⟩
  rw [assertion_of_names names readable rsa clock.instant, affords.begins, affords.ends, signed]
  rfl

def smallKey : Rsa.PrivateKey := ⟨⟨33, 3⟩, 7, 3, 11, 1, 7, 2⟩

/-- One and a half seconds are one second to an assertion. -/
theorem sampleIdentity_conveys :
    (∃ k text name header payload signature,
      sampleIdentity.assertion (.float (.finite false 3 (-1))) 60 = .ok text ∧
      sampleIdentity.connectorName = .ok name ∧
      Conveys text k name 1 60 header payload signature) ∧
    ((1 : ℤ) : ℚ) ≤ Binary64.toRat false 3 (-1) ∧
    (∃ fault, (⟨sampleIdentity.certificate, .rsa smallKey⟩ : Identity).assertion (.int 0) 60 =
      .error fault ∧ fault.kind = .value) := by
  obtain ⟨readable, complete⟩ := TokenSource.sampleIdentity_complete
  obtain ⟨subject, authority, names⟩ := (Certificate.named_or_lacks readable).resolve_right complete
  obtain ⟨k, rsa, room⟩ := TokenSource.sampleIdentity_signs
  have clock : (Value.float (.finite false 3 (-1))).Clock (Binary64.toRat false 3 (-1)) :=
    .float rfl
  have cut : whole (Binary64.toRat false 3 (-1)) = 1 := by decide +kernel
  have affords : Affords k 1 60 := ⟨by decide +kernel, by decide +kernel, room⟩
  obtain ⟨asserts, -, near⟩ := assertion_conveys names readable rsa clock 60
  rw [cut] at asserts near
  refine ⟨⟨k, asserts affords⟩, (near (by decide +kernel)).1, ?_⟩
  exact (@assertion_conveys ⟨sampleIdentity.certificate, .rsa smallKey⟩ _ _ _ _ _ names readable rfl
    (.int 0) 60).2.1 fun afforded => absurd afforded.room (by decide)

/-- A certificate that names its holder, with another extension that comes twice. -/
def muddled : Certificate :=
  let constraints : Extension := ⟨Extension.standard 19, false, [0x30, 0x00]⟩
  ⟨sampleIdentity.certificate.extensions ++ [constraints, constraints]⟩

/-- Neither with such a certificate nor with so small a key is there any assertion. -/
theorem muddled_unasserted :
    (∃ subject authority, muddled.Names subject authority) ∧
    (∃ subject authority, sampleIdentity.certificate.Names subject authority) ∧
    (∃ k, sampleIdentity.key = .rsa k) ∧ (Value.int 0).Clock 0 ∧
    (⟨muddled, sampleIdentity.key⟩ : Identity).assertion (.int 0) 60 =
      .error (.crash .duplicateExtension) ∧
    (⟨sampleIdentity.certificate, .rsa smallKey⟩ : Identity).assertion (.int 0) 60 =
      .error (.crash .value) := by
  obtain ⟨readable, complete⟩ := TokenSource.sampleIdentity_complete
  obtain ⟨subject, authority, names⟩ := (Certificate.named_or_lacks readable).resolve_right complete
  obtain ⟨k, rsa, -⟩ := TokenSource.sampleIdentity_signs
  refine ⟨⟨subject, authority, ?_⟩, ⟨subject, authority, names⟩, ⟨k, rsa⟩,
    by exact_mod_cast Value.Clock.int 0, ?_, ?_⟩
  · obtain ⟨e, ⟨x, member, held⟩, octets⟩ := names.subject
    obtain ⟨f, key, ⟨y, memberToo, told⟩, read⟩ := names.authority
    exact ⟨⟨e, ⟨x, List.mem_append_left _ member, held⟩, octets⟩,
      ⟨f, key, ⟨y, List.mem_append_left _ memberToo, told⟩, read⟩⟩
  · rfl
  · have written : Text.writable 0 = true ∧ Text.writable (0 + 60) = true := by decide +kernel
    rw [assertion_of_names (i := ⟨sampleIdentity.certificate, .rsa smallKey⟩) names readable rfl
      (.int 0), signAssertion_of_crowded (by decide), written.1, written.2]
    rfl

end Identity

end TokenGate
