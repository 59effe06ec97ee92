import TokenGate.Proofs.Inbound.Decoding
import TokenGate.Proofs.Token.Suitability

/-! Faults that leave the decoding of a token. Where look-ups only end as they should, all of them
are verdicts on the token, save the one of a key that does not suit the algorithm of the token.
-/

set_option autoImplicit false

namespace TokenGate

namespace KeySource

/-- From this memory on, every look-up ends in a key or in a fault of looking up a key. -/
def Dependable (s : KeySource) (m : KeyMemory) : Prop :=
  ∀ n, s.Reaches m n → ∀ asked fault, (s.lookup asked n).1 = .error fault →
    fault.isKeyRetrieval = true

variable {s : KeySource} {m : KeyMemory}

/-- Only fetches can bring in other faults. -/
theorem Dependable.of_outcomes
    (retrieved : ∀ i fault, s.ofOutcome (s.script i) = .error fault → fault.isKeyRetrieval = true) :
    s.Dependable m := by
  intro n _ asked fault failed
  rcases lookup_error_cases failed with rfl | ⟨_, _, refused⟩
  · rfl
  · exact retrieved n.fetched fault refused

end KeySource

namespace Validator

variable {v : Validator} {token : List Char} {m n : KeyMemory} {key : PublishedKey}

theorem withoutKey_kind {fault : Fault} (retrieval : fault.isKeyRetrieval = true) :
    (withoutKey fault).kind = .tokenVerification := by
  rw [withoutKey, if_pos retrieval]
  rfl

theorem Keyless.fault_kind {fault : Fault} (dependable : v.keys.Dependable m)
    (keyless : v.Keyless token m fault n) : (withoutKey fault).kind = .tokenVerification := by
  cases keyless with
  | first failed => exact withoutKey_kind (dependable m .refl _ fault (by rw [failed]))
  | refreshed found _ failed =>
    have dropped : v.keys.Reaches m _ := found.provided.reaches.tail .forget
    exact withoutKey_kind (dependable _ dropped _ fault (by rw [failed]))

/-- Of all faults in a verdict only that of an unsuitable key says nothing about the token. -/
theorem verdict_escapes_iff :
    (∃ fault, v.verdict token key = .error fault ∧ fault.kind ≠ .tokenVerification) ↔
      ∃ t algorithm, Token.Asks v.algorithms token t algorithm ∧
        ¬ Token.Suits algorithm key.key := by
  constructor
  · rintro ⟨fault, failed, escaped⟩
    refine Token.decode_crashes_iff.mp ?_
    unfold verdict at failed
    cases decoded : Token.decode v.algorithms key.key token with
    | ok claims =>
      rw [decoded] at failed
      cases failed
    | error refusal =>
      rw [decoded] at failed
      cases refusal with
      | crash kind => exact ⟨kind, rfl⟩
      | invalid | wrongSignature =>
        cases failed
        exact absurd rfl escaped
  · rintro ⟨t, algorithm, asks, unsuited⟩
    have decoded := asks.decode_eq key.key
    cases judged : Token.verify algorithm key.key (Utf8.encode t.signed) t.signature with
    | ok right => exact absurd (Token.suits_iff.mpr ⟨right, judged⟩) unsuited
    | error kind =>
      rw [judged] at decoded
      refine ⟨.crash kind, by simp only [verdict, decoded], ?_⟩
      -- What a key that does not suit ends in is none of the faults that a token is refused with.
      rintro (rfl : kind = .tokenVerification)
      cases Token.verify_raw _ _ _ _ _ judged

/-- Decoding ends in claims or in a verdict on the token, except exactly where the key that decides
on the token does not suit the algorithm that the token asks for. -/
theorem decodeClaims_escapes_iff (dependable : v.keys.Dependable m) :
    (∃ fault, (v.decodeClaims token m).1 = .error fault ∧ fault.kind ≠ .tokenVerification) ↔
      ∃ key n t algorithm, v.Decides token m key n ∧
        Token.Asks v.algorithms token t algorithm ∧ ¬ Token.Suits algorithm key.key := by
  constructor
  · rintro ⟨fault, failed, escaped⟩
    rcases decodeClaims_cases v token m with
      ⟨_, foreign⟩ | ⟨key, n, decided, settled⟩ | ⟨cause, n, keyless, missed⟩
    · rw [foreign] at failed
      cases failed
      exact absurd rfl escaped
    · rw [settled] at failed
      obtain ⟨t, algorithm, asks, unsuited⟩ := verdict_escapes_iff.mp ⟨fault, failed, escaped⟩
      exact ⟨key, n, t, algorithm, decided, asks, unsuited⟩
    · -- A fault of looking up a key is told as a verdict.
      rw [missed] at failed
      cases failed
      exact absurd (keyless.fault_kind dependable) escaped
  · rintro ⟨key, n, t, algorithm, decided, asks, unsuited⟩
    rw [decided.decodeClaims_eq]
    exact verdict_escapes_iff.mpr ⟨t, algorithm, asks, unsuited⟩

def mismatched : Validator :=
  ⟨⟨"", none, 10, fun _ => .ofSecret "dHdv"⟩, [], defaultAlgorithms⟩

theorem mismatched_escapes :
    let token := "eyJhbGciOiJSUzI1NiJ9.e30.AA".toList
    (∃ fault, (mismatched.decodeClaims token .empty).1 = .error fault ∧
      fault.kind = .invalidKey) ∧
    ∃ key n t algorithm, mismatched.Decides token .empty key n ∧
      Token.Asks ["RS256"] token t algorithm ∧ ¬ Token.Suits algorithm key.key := by
  intro token
  have served : (mismatched.keys.ofOutcome (.ofSecret "dHdv")).toOption.isSome = true := by
    decide +kernel
  have dependable : mismatched.keys.Dependable .empty := by
    refine .of_outcomes ?_
    intro i fault failed
    rw [show mismatched.keys.script i = .ofSecret "dHdv" from rfl] at failed
    rw [failed] at served
    cases served
  have told : (match (mismatched.decodeClaims token .empty).1 with
      | .error fault => fault.kind
      | .ok _ => .tokenVerification) = Kind.invalidKey := by
    decide +kernel
  have escaped : ∃ fault, (mismatched.decodeClaims token .empty).1 = .error fault ∧
      fault.kind = .invalidKey := by
    cases failed : (mismatched.decodeClaims token .empty).1 with
    | ok claims =>
      rw [failed] at told
      cases told
    | error fault =>
      rw [failed] at told
      exact ⟨fault, rfl, told⟩
  refine ⟨escaped, (decodeClaims_escapes_iff dependable).mp ?_⟩
  obtain ⟨fault, failed, kind⟩ := escaped
  exact ⟨fault, failed, by simp [kind]⟩

end Validator

end TokenGate
