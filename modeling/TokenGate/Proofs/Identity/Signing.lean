import TokenGate.Identity.Assertion
import TokenGate.Proofs.Identity.Naming

/-! When an identity with an RSA key signs an assertion. Its certificate has to name it, the times
of the assertion must not have too many digits to be written, and the key needs room for a digest.
-/

set_option autoImplicit false

namespace TokenGate

inductive Value.Instant : Value → Int → Prop where
  | int (n : Int) : Instant (.int n) n
  | float {x : Binary64} {n : Int} : x.truncate? = some n → Instant (.float x) n

theorem Sha2.hash32_length (start : Sha2.Eight UInt32) (bytes : Bytes) :
    (Sha2.family32.hash start bytes).length = 32 := by
  simp [Sha2.Family.hash, Sha2.Eight.toList, Sha2.family32, Bytes.ofWord]

namespace Rsa

/-- The digest and its header are 51 octets, and the least padding is eleven. -/
theorem signedBlock?_sha256_isSome (size : Nat) (message : Bytes) :
    (signedBlock? .sha256 size message).isSome = decide (62 ≤ size) := by
  have length : (digestHeader .sha256 ++ Hash.sha256.run message).length = 51 := by
    simp [digestHeader, digestHeader.second, Hash.run, Sha2.hash32_length]
  simp only [signedBlock?, length]
  split <;> simp <;> omega

theorem sign?_sha256_isSome (k : PrivateKey) (message : Bytes) :
    (sign? .sha256 k message).isSome = decide (62 ≤ k.toPublic.size) := by
  rw [sign?, Option.isSome_map, signedBlock?_sha256_isSome]

end Rsa

namespace Identity

variable {i : Identity} {k : Rsa.PrivateKey} {now : Value} {start lifetime : Int}

/-- Both times of an assertion can be written, and the key has room for its signature. -/
structure Affords (k : Rsa.PrivateKey) (start lifetime : Int) : Prop where
  begins : Text.writable start = true
  ends : Text.writable (start + lifetime) = true
  room : 62 ≤ k.toPublic.size

theorem wholeSeconds_eq (clock : now.Instant start) : wholeSeconds now = .ok start := by
  cases clock with
  | int => rfl
  | float whole => simp [wholeSeconds, whole]

theorem signAssertion_of_room (room : 62 ≤ k.toPublic.size) (claims : Value) :
    ∃ text, signAssertion (.rsa k) claims = .ok text := by
  have signs := fun message => (Rsa.sign?_sha256_isSome k message).trans (decide_eq_true room)
  obtain ⟨signature, signed⟩ := Option.isSome_iff_exists.mp (signs (Utf8.encode
    (Compact.signingInput (Json.write assertionHeader) (Json.write claims))))
  simp only [signAssertion, signed]
  exact ⟨_, rfl⟩

theorem signAssertion_of_crowded (crowded : k.toPublic.size < 62) (claims : Value) :
    signAssertion (.rsa k) claims = .error (.crash .value) := by
  have unsigned : ∀ message, Rsa.sign? .sha256 k message = none := by
    intro message
    rw [← Option.not_isSome_iff_eq_none, Rsa.sign?_sha256_isSome, decide_eq_true_iff]
    exact Nat.not_le.mpr crowded
  simp only [signAssertion, unsigned]

theorem assertion_of_lacks (lacks : i.certificate.Lacks) (readable : i.certificate.Readable)
    (now : Value) (lifetime : Int) :
    ∃ fault, i.assertion now lifetime = .error fault ∧ fault.kind = .missingCertExtension := by
  obtain ⟨fault, unnamed, kind⟩ := connectorName_of_lacks lacks readable
  exact ⟨fault, by rw [assertion, unnamed]; rfl, kind⟩

theorem assertion_of_names {subject authority : Bytes}
    (names : i.certificate.Names subject authority) (readable : i.certificate.Readable)
    (rsa : i.key = .rsa k) (clock : now.Instant start) :
    i.assertion now lifetime =
      if !Text.writable start || !Text.writable (start + lifetime) then .error .integerUnwritable
      else (signAssertion (.rsa k) (assertionClaims
        (String.ofList (name subject authority)) start lifetime)).map String.ofList := by
  rw [assertion, connectorName_of_names names readable, wholeSeconds_eq clock, rsa]
  simp only [bind, Except.bind]

theorem assertion_of_affords {subject authority : Bytes}
    (names : i.certificate.Names subject authority) (readable : i.certificate.Readable)
    (rsa : i.key = .rsa k) (clock : now.Instant start) (affords : Affords k start lifetime) :
    ∃ text, i.assertion now lifetime = .ok text := by
  obtain ⟨text, signed⟩ := signAssertion_of_room affords.room
    (assertionClaims (String.ofList (name subject authority)) start lifetime)
  rw [assertion_of_names names readable rsa clock, affords.begins, affords.ends, signed]
  exact ⟨_, rfl⟩

theorem assertion_of_not_affords {subject authority : Bytes}
    (names : i.certificate.Names subject authority) (readable : i.certificate.Readable)
    (rsa : i.key = .rsa k) (clock : now.Instant start) (wanting : ¬ Affords k start lifetime) :
    ∃ fault, i.assertion now lifetime = .error fault ∧ fault.kind = .value := by
  rw [assertion_of_names names readable rsa clock]
  split
  · exact ⟨_, rfl, rfl⟩
  · next written =>
    -- The times can be written, so it is the key that has no room.
    simp only [Bool.not_eq_true, Bool.or_eq_false_iff, Bool.not_eq_false'] at written
    have crowded : k.toPublic.size < 62 := by
      by_contra room
      exact wanting ⟨written.1, written.2, Nat.not_lt.mp room⟩
    rw [signAssertion_of_crowded crowded]
    exact ⟨_, rfl, rfl⟩

end Identity

end TokenGate
