import TokenGate.Proofs.Stored.Reading
import TokenGate.Proofs.Token.Authentic

/-! Which keys go with which algorithms. A signature is judged exactly if the key suits the
algorithm; any other key ends in a fault that is none of the gate's own.
-/

set_option autoImplicit false

namespace TokenGate

namespace Secret

theorem publicKey_raw (secret : Bytes) : Raw (publicKey secret) := .map (PublicKey.ofText_raw _)

theorem privateKey_raw (secret : Bytes) : Raw (privateKey secret) := .map (PrivateKey.ofText_raw _)

theorem shellKey_raw (secret : Bytes) : Raw (shellKey secret) := .map (ShellKey.ofLine_raw secret)

theorem edwards_raw (secret : Bytes) : Raw (edwards secret) := by
  unfold edwards
  split
  · exact .error rfl
  · split
    · exact publicKey_raw secret
    · split
      · exact privateKey_raw secret
      · split
        · exact shellKey_raw secret
        · exact .error rfl

theorem rsa_raw (secret : Bytes) : Raw (rsa secret) := by
  have first : Raw (if ShellKey.rsaName.isPrefixOf secret then shellKey secret
      else privateKey secret) := by
    split
    · exact shellKey_raw secret
    · exact privateKey_raw secret
  unfold rsa
  dsimp only
  split
  · split
    · exact .error rfl
    · exact .error rfl
    · exact publicKey_raw secret
  · exact first

theorem curve_raw (secret : Bytes) : Raw (curve secret) := by
  have first : Raw (if (Utf8.ofString "ecdsa-sha2-").isPrefixOf secret then shellKey secret
      else publicKey secret) := by
    split
    · exact shellKey_raw secret
    · exact publicKey_raw secret
  unfold curve
  dsimp only
  split
  · exact privateKey_raw secret
  · exact first

theorem isFormed_raw {α : Type} {read : Except Kind α} (raw : Raw read) : Raw (isFormed read) := by
  unfold isFormed
  split
  · exact .ok _
  · exact .ok _
  · exact .ok _
  · exact .ok _
  · next kind _ _ _ => exact .error (raw kind rfl)

theorem isElement_raw (secret : Bytes) : Raw (isElement secret) := by
  refine .bind (isFormed_raw (PublicKey.ofDer_raw secret)) fun isPublic => ?_
  split
  · exact .ok _
  · refine .bind (isFormed_raw (PrivateKey.ofDer_raw secret)) fun isPrivate => ?_
    split
    · exact .ok _
    · exact isFormed_raw (Certificate.ofDer_raw secret)

theorem holdsPublishedKey_raw (secret : Bytes) : Raw (holdsPublishedKey secret) := by
  unfold holdsPublishedKey
  split
  · exact .ok _
  · exact .error rfl
  · exact .ok _

theorem plain_raw (secret : Bytes) : Raw (plain secret) := by
  unfold plain
  split
  · exact .error rfl
  · refine .bind (isElement_raw secret) fun element => ?_
    split
    · exact .error rfl
    · refine .bind (holdsPublishedKey_raw secret) fun published => ?_
      split
      · exact .error rfl
      · exact .ok _

theorem plain_eq {secret bytes : Bytes} (taken : plain secret = .ok bytes) : bytes = secret := by
  unfold plain at taken
  split at taken
  · cases taken
  · cases element : isElement secret with
    | error kind =>
      rw [element] at taken
      cases taken
    | ok isElement =>
      cases published : holdsPublishedKey secret with
      | error kind =>
        rw [element, published] at taken
        cases isElement <;> cases taken
      | ok isPublished =>
        rw [element, published] at taken
        cases isElement <;> cases isPublished <;> cases taken
        rfl

end Secret

namespace Token

theorem secretOf_raw (key : Key) : Raw (secretOf key) := by
  unfold secretOf
  split
  · exact Secret.plain_raw _
  · exact .error rfl

theorem rsaOf_raw (key : Key) : Raw (rsaOf key) := by
  unfold rsaOf
  split
  · exact .ok _
  · exact .error rfl
  · split
    · exact .ok _
    · exact .error rfl
    · exact .error rfl
    · next kind failed => exact .error (Secret.rsa_raw _ kind failed)
  · exact .error rfl

theorem onCurve_raw (c d : Curve) (p : Curve.Point) : Raw (onCurve c d p) := by
  unfold onCurve
  split
  · exact .ok _
  · exact .error rfl

theorem pointOf_raw (c : Curve) (key : Key) : Raw (pointOf c key) := by
  unfold pointOf
  split
  · exact onCurve_raw _ _ _
  · exact onCurve_raw _ _ _
  · split
    · exact onCurve_raw _ _ _
    · split
      · exact onCurve_raw _ _ _
      · exact .error rfl
    · exact .error rfl
    · next kind failed => exact .error (Secret.curve_raw _ kind failed)
  · exact .error rfl

theorem edwardsOf_raw (key : Key) : Raw (edwardsOf key) := by
  unfold edwardsOf
  split
  · exact .ok _
  · exact .ok _
  · split
    · exact .ok _
    · exact .ok _
    · exact .error rfl
    · next kind failed => exact .error (Secret.edwards_raw _ kind failed)
  · exact .error rfl

/-- A key that cannot be used is told by a fault that is none of the gate's own. -/
theorem verify_raw (algorithm : Algorithm) (key : Key) (message signature : Bytes) :
    Raw (verify algorithm key message signature) := by
  cases algorithm with
  | unsigned => exact .error rfl
  | mac h => exact .map (secretOf_raw key)
  | rsa h => exact .map (rsaOf_raw key)
  | salted h => exact .map (rsaOf_raw key)
  | curve c h => exact .map (pointOf_raw c key)
  | edwards => exact .map (edwardsOf_raw key)

inductive Written : Algorithm → Bytes → Prop where
  | mac {h : Hash} {secret : Bytes} : Secret.plain secret = .ok secret → Written (.mac h) secret
  | rsa {h : Hash} {secret : Bytes} {k : Rsa.PublicKey} :
      Secret.rsa secret = .ok (.forOthers (.rsa k)) → Written (.rsa h) secret
  | salted {h : Hash} {secret : Bytes} {k : Rsa.PublicKey} :
      Secret.rsa secret = .ok (.forOthers (.rsa k)) → Written (.salted h) secret
  | curvePublic {c : Curve} {h : Hash} {secret : Bytes} {p : Curve.Point} :
      Secret.curve secret = .ok (.forOthers (.curve c p)) → Written (.curve c h) secret
  | curvePrivate {c : Curve} {h : Hash} {secret : Bytes} {d : Nat} :
      Secret.curve secret = .ok (.own (.curve c d)) → (c.times d c.base).isSome = true →
      Written (.curve c h) secret
  | edwardsPublic {secret : Bytes} {c : Edwards} {point : Bytes} :
      Secret.edwards secret = .ok (.forOthers (.edwards c point)) → Written .edwards secret
  | edwardsPrivate {secret : Bytes} {c : Edwards} {seed : Bytes} :
      Secret.edwards secret = .ok (.own (.edwards c seed)) → Written .edwards secret

/-- A key of the family that an algorithm is for, and that can verify. -/
inductive Suits : Algorithm → Key → Prop where
  | rsa {h : Hash} {k : Rsa.PublicKey} : Suits (.rsa h) (.rsaPublic k)
  | salted {h : Hash} {k : Rsa.PublicKey} : Suits (.salted h) (.rsaPublic k)
  | curvePublic {c : Curve} {h : Hash} {p : Curve.Point} : Suits (.curve c h) (.curvePublic c p)
  | curvePrivate {c : Curve} {h : Hash} {p : Curve.Point} {d : Nat} :
      Suits (.curve c h) (.curvePrivate c p d)
  | edwardsPublic {c : Edwards} {point : Bytes} : Suits .edwards (.edwardsPublic c point)
  | edwardsPrivate {c : Edwards} {seed : Bytes} : Suits .edwards (.edwardsPrivate c seed)
  | secret {algorithm : Algorithm} {bytes : Bytes} :
      Written algorithm bytes → Suits algorithm (.secret bytes)

theorem suits_mac_iff {h : Hash} {key : Key} :
    Suits (.mac h) key ↔ ∃ secret, secretOf key = .ok secret := by
  constructor
  · intro suits
    cases suits with
    | @secret _ bytes written =>
      cases written with
      | mac plain => exact ⟨bytes, plain⟩
  · rintro ⟨secret, found⟩
    unfold secretOf at found
    split at found
    · next bytes =>
      have same : secret = bytes := Secret.plain_eq found
      subst same
      exact .secret (.mac found)
    · cases found

theorem suits_rsa_iff {h : Hash} {key : Key} :
    Suits (.rsa h) key ↔ ∃ k, rsaOf key = .ok k := by
  constructor
  · intro suits
    -- A key of the right kind, or a secret in which such a key is written.
    cases suits with
    | @rsa _ k => exact ⟨k, rfl⟩
    | secret written =>
      cases written with
      | @rsa _ _ k read => exact ⟨k, by simp only [rsaOf, read]⟩
  · rintro ⟨k, found⟩
    unfold rsaOf at found
    split at found
    · exact .rsa
    · cases found
    · split at found
      · next read => exact .secret (.rsa read)
      all_goals cases found
    · cases found

theorem suits_salted_iff {h : Hash} {key : Key} : Suits (.salted h) key ↔ Suits (.rsa h) key := by
  constructor
  · intro suits
    cases suits with
    | salted => exact .rsa
    | secret written =>
      cases written with
      | salted read => exact .secret (.rsa read)
  · intro suits
    cases suits with
    | rsa => exact .salted
    | secret written =>
      cases written with
      | rsa read => exact .secret (.salted read)

theorem onCurve_eq_ok_iff {c d : Curve} {p q : Curve.Point} :
    onCurve c d p = .ok q ↔ c = d ∧ p = q := by
  unfold onCurve
  split
  · next same => simp [same]
  · next different => simp [different]

theorem suits_curve_iff {c : Curve} {h : Hash} {key : Key} :
    Suits (.curve c h) key ↔ ∃ p, pointOf c key = .ok p := by
  constructor
  · intro suits
    cases suits with
    | @curvePublic _ _ p => exact ⟨p, onCurve_eq_ok_iff.mpr ⟨rfl, rfl⟩⟩
    | @curvePrivate _ _ p => exact ⟨p, onCurve_eq_ok_iff.mpr ⟨rfl, rfl⟩⟩
    | secret written =>
      cases written with
      | @curvePublic _ _ _ p read =>
        refine ⟨p, ?_⟩
        simp only [pointOf, read]
        exact onCurve_eq_ok_iff.mpr ⟨rfl, rfl⟩
      | curvePrivate read there =>
        -- A private number stands for a multiple of the base, unless that is the point at infinity.
        obtain ⟨p, multiple⟩ := Option.isSome_iff_exists.mp there
        refine ⟨p, ?_⟩
        simp only [pointOf, read, multiple]
        exact onCurve_eq_ok_iff.mpr ⟨rfl, rfl⟩
  · rintro ⟨p, found⟩
    unfold pointOf at found
    split at found
    · obtain ⟨rfl, _⟩ := onCurve_eq_ok_iff.mp found
      exact .curvePublic
    · obtain ⟨rfl, _⟩ := onCurve_eq_ok_iff.mp found
      exact .curvePrivate
    · split at found
      · next read =>
        obtain ⟨rfl, _⟩ := onCurve_eq_ok_iff.mp found
        exact .secret (.curvePublic read)
      · next read =>
        split at found
        · next multiple =>
          obtain ⟨rfl, _⟩ := onCurve_eq_ok_iff.mp found
          exact .secret (.curvePrivate read (by rw [multiple]; rfl))
        · cases found
      all_goals cases found
    · cases found

theorem suits_edwards_iff {key : Key} :
    Suits .edwards key ↔ ∃ found, edwardsOf key = .ok found := by
  constructor
  · intro suits
    cases suits with
    | edwardsPublic => exact ⟨_, rfl⟩
    | edwardsPrivate => exact ⟨_, rfl⟩
    | secret written =>
      cases written with
      | @edwardsPublic _ c point read => exact ⟨(c, point), by simp only [edwardsOf, read]⟩
      | @edwardsPrivate _ c seed read =>
        exact ⟨(c, c.publicOf seed), by simp only [edwardsOf, read]⟩
  · rintro ⟨pair, found⟩
    unfold edwardsOf at found
    split at found
    · exact .edwardsPublic
    · exact .edwardsPrivate
    · split at found
      · next read => exact .secret (.edwardsPublic read)
      · next read => exact .secret (.edwardsPrivate read)
      all_goals cases found
    · cases found

theorem map_ok_iff {α β : Type} {x : Except Kind α} {f : α → β} :
    (∃ b, x.map f = .ok b) ↔ ∃ a, x = .ok a := by
  cases x <;> simp [Except.map]

/-- There is a judgement on a signature exactly if the key suits the algorithm. -/
theorem suits_iff {algorithm : Algorithm} {key : Key} {message signature : Bytes} :
    Suits algorithm key ↔ ∃ right, verify algorithm key message signature = .ok right := by
  cases algorithm with
  | unsigned =>
    constructor
    · intro suits
      cases suits with
      | secret written => cases written
    · rintro ⟨_, impossible⟩
      cases impossible
  | mac h => exact suits_mac_iff.trans map_ok_iff.symm
  | rsa h => exact suits_rsa_iff.trans map_ok_iff.symm
  | salted h => exact suits_salted_iff.trans (suits_rsa_iff.trans map_ok_iff.symm)
  | curve c h => exact suits_curve_iff.trans map_ok_iff.symm
  | edwards => exact suits_edwards_iff.trans map_ok_iff.symm

def Unfit (allowed : List String) (key : Key) (token : List Char) : Prop :=
  ∃ t algorithm, Asks allowed token t algorithm ∧ ¬ Suits algorithm key

theorem decode_crashes_iff {allowed : List String} {key : Key} {token : List Char} :
    (∃ kind, decode allowed key token = .error (.crash kind)) ↔ Unfit allowed key token := by
  constructor
  · rintro ⟨kind, crashed⟩
    rcases decode_cases allowed key token with
      ⟨_, _, other⟩ | ⟨_, other⟩ | ⟨t, algorithm, _, asks, unusable, _⟩ | other
    -- A key that suits the algorithm would have given a judgement.
    case inr.inr.inl =>
      refine ⟨t, algorithm, asks, ?_⟩
      intro suits
      obtain ⟨right, judged⟩ := suits_iff.mp suits
      rw [unusable] at judged
      cases judged
    all_goals
      rw [crashed] at other
      cases other
  · rintro ⟨t, algorithm, asks, unsuited⟩
    cases judged : verify algorithm key (Utf8.encode t.signed) t.signature with
    | ok right => exact absurd (suits_iff.mpr ⟨right, judged⟩) unsuited
    | error kind => exact ⟨kind, by rw [asks.decode_eq key, judged]⟩

end Token

end TokenGate
