import TokenGate.Proofs.Key.Economy
import TokenGate.Proofs.Outbound.Provision

/-! What the status of an answer decides. Statuses from 400 to 599 keep everything out that stands
in the answer; all others count for nothing, be they those of a success or not.
-/

set_option autoImplicit false

namespace TokenGate

namespace Response

def Refuses (r : Response) : Prop := 400 ≤ r.status ∧ r.status < 600

def Succeeds (r : Response) : Prop := 200 ≤ r.status ∧ r.status < 300

def succeeded (r : Response) : Response := { r with status := 200 }

def Holds (r : Response) (token : Text) : Prop :=
  ∃ ms, r.json = .ok (.object ms) ∧ Members.get? ms "access_token" = some (.str token) ∧ token ≠ ""

variable {r : Response}

theorem isError_iff : r.isError = true ↔ r.Refuses := by
  simp [isError, Refuses]

theorem isError_eq_false_iff : r.isError = false ↔ ¬ r.Refuses := by
  rw [← isError_iff, Bool.not_eq_true]

end Response

namespace KeySource

variable {s : KeySource} {m : KeyMemory} {asked : Option Text} {r : Response} {key : PublishedKey}

theorem ofOutcome_of_refuses (refuses : r.Refuses) :
    s.ofOutcome (.answered r) = .error (.keySetUnreachable s.url) :=
  if_pos (Response.isError_iff.mpr refuses)

theorem serves_answered_iff :
    s.Serves (.answered r) key ↔ ¬ r.Refuses ∧ s.Serves (.answered r.succeeded) key := by
  rw [← Response.isError_eq_false_iff]
  constructor
  · rintro ⟨_, document, entries, ⟨⟩, fine, read, keys, gives⟩
    exact ⟨fine, r.succeeded, document, entries, rfl, rfl, read, keys, gives⟩
  · rintro ⟨fine, _, document, entries, ⟨⟩, _, read, keys, gives⟩
    exact ⟨r, document, entries, rfl, fine, read, keys, gives⟩

theorem lookup_eq_ok_fetched_iff (familiar : s.isForeign asked = false) (missing : m.entry = none) :
    (s.lookup asked m).1 = .ok key ↔ s.Serves (s.script m.fetched) key ∧ key.Answers asked := by
  constructor
  · intro found
    rcases looked : s.lookup asked m with ⟨_, n⟩
    rw [looked] at found
    cases found
    obtain ⟨_, provided, answers⟩ := lookup_eq_ok_iff.mp looked
    cases provided with
    | kept held =>
      rw [missing] at held
      cases held
    | fetched _ served => exact ⟨served, answers⟩
  · rintro ⟨served, answers⟩
    rw [lookup_eq_ok_iff.mpr ⟨familiar, .fetched missing served, answers⟩]

theorem lookup_entry_iff (familiar : s.isForeign asked = false) (missing : m.entry = none) :
    (s.lookup asked m).2.entry = some key ↔ s.Serves (s.script m.fetched) key := by
  rw [lookup_of_missing familiar missing, toOption_eq_some_iff, ofOutcome_eq_ok_iff]

end KeySource

namespace Acquirer

theorem ofBody_eq_ok_iff {v : Value} {token : Text} :
    ofBody v = .ok token ↔
      ∃ ms, v = .object ms ∧ Members.get? ms "access_token" = some (.str token) ∧ token ≠ "" := by
  constructor
  · intro taken
    unfold ofBody at taken
    split at taken
    · next ms =>
      split at taken
      · next s found =>
        split at taken
        · cases taken
        · next filled =>
          cases taken
          exact ⟨ms, rfl, found, filled⟩
      · cases taken
    · cases taken
  · rintro ⟨ms, rfl, found, filled⟩
    simp only [ofBody, found, if_neg filled]

theorem ofOutcome_answered_iff {endpoint : String} {r : Response} {token : Text} :
    ofOutcome endpoint (.answered r) = .ok token ↔ ¬ r.Refuses ∧ r.Holds token := by
  rw [← Response.isError_eq_false_iff, ofOutcome, ofResponse, Response.Holds]
  cases r.isError with
  | true => simp
  | false =>
    cases read : r.json with
    | ok v => simp [ofBody_eq_ok_iff]
    | error cause =>
      -- Whatever the cause, no value was read.
      simp only [Bool.false_eq_true, if_false, reduceCtorEq, false_and, exists_false, and_false,
        iff_false]
      split <;> simp_all

theorem ofOutcome_of_refuses {endpoint : String} {r : Response} (refuses : r.Refuses) :
    ofOutcome endpoint (.answered r) = .error (.refused endpoint r.status) :=
  if_pos (Response.isError_iff.mpr refuses)

end Acquirer

structure KeySource.TakesFrom (s : KeySource) (asked : Option Text) (m : KeyMemory)
    (r : Response) : Prop where
  refused : r.Refuses →
    s.lookup asked m = (.error (.keySetUnreachable s.url), ⟨none, m.fetched + 1⟩)
  found : ∀ key, (s.lookup asked m).1 = .ok key ↔
    ¬ r.Refuses ∧ s.Serves (.answered r.succeeded) key ∧ key.Answers asked
  kept : ∀ key, (s.lookup asked m).2.entry = some key ↔
    ¬ r.Refuses ∧ s.Serves (.answered r.succeeded) key

structure Acquirer.TakesFrom (endpoint : String) (outcome : Except Fault Text) (r : Response) :
    Prop where
  refused : r.Refuses → outcome = .error (.refused endpoint r.status)
  issued : ∀ token, outcome = .ok token ↔ ¬ r.Refuses ∧ r.Holds token

/-- Nothing is taken from an answer with a status that refuses: no key is found or kept, and no
token is issued. With any other status, and be it none of success, the answer is read just as if the
call had succeeded, and its key or its token is taken. -/
theorem Response.taken_unless_refused (r : Response) :
    (∀ (s : KeySource) (asked : Option Text) (m : KeyMemory), s.isForeign asked = false →
      m.entry = none → s.script m.fetched = .answered r → s.TakesFrom asked m r) ∧
    ∀ (a : Acquirer) (script : Script) (now : Value) (endpoint : String) (s : ProviderState)
      (request : TokenRequest), a.request now endpoint = .ok request →
      script s.calls.length = .answered r →
      let acquired := (TokenSource.authority a script).acquire now endpoint s
      acquired.2 = { s with calls := .sent request :: s.calls } ∧
        Acquirer.TakesFrom endpoint acquired.1 r := by
  constructor
  · intro s asked m familiar missing answered
    refine ⟨?_, ?_, ?_⟩
    · intro refuses
      refine KeySource.lookup_eq_refused familiar missing ?_
      rw [answered, KeySource.ofOutcome_of_refuses refuses]
    · intro key
      rw [KeySource.lookup_eq_ok_fetched_iff familiar missing, answered,
        KeySource.serves_answered_iff, and_assoc]
    · intro key
      rw [KeySource.lookup_entry_iff familiar missing, answered, KeySource.serves_answered_iff]
  · -- The same statuses are refused when a token is asked for.
    intro a script now endpoint s request made answered
    have sent : (TokenSource.authority a script).acquire now endpoint s =
        (Acquirer.ofOutcome endpoint (.answered r),
          { s with calls := .sent request :: s.calls }) := by
      simp only [TokenSource.acquire, made, answered]
    rw [sent]
    exact ⟨rfl, Acquirer.ofOutcome_of_refuses, fun _ => Acquirer.ofOutcome_answered_iff⟩

def unmodified : Response :=
  ⟨304, Utf8.ofString
    "\x7b\"keys\":[\x7b\"kty\":\"oct\",\"k\":\"dHdv\"\x7d],\"access_token\":\"t\"\x7d", none, none⟩

/-- A certificate with two key identifiers of one octet each, and the private key of it. -/
def sampleIdentity : Identity :=
  let number (s : String) : Nat := ((PublishedKey.octets? (.str s)).getD []).toNat
  let p := number "4RXmC_4HXY-E9aeU3-ZvOZPOWd-D1NTJhqa23ycboC0"
  let q := number "2LN1F1hQgJ-1mpyMLR3TSwvU1Fh05Ybc3_RDM1uTJrk"
  let d := number ("ptFfSesnS-pdwcurG3aLPnKChIRbURIBk_FvqPFl8N0_KREKwWAiBTig0wSHzYmUjWAPLsXzu67N" ++
    "N_d4CHaSgQ")
  ⟨⟨[⟨Extension.subjectKeyIdentifier, false, [0x04, 0x01, 0x01]⟩,
    ⟨Extension.authorityKeyIdentifier, false, [0x30, 0x03, 0x80, 0x01, 0x02]⟩]⟩,
    .rsa ⟨⟨p * q, 65537⟩, d, p, q, d % (p - 1), d % (q - 1),
      number "3G-83BGdMbfEnkQn-QQoGLdys-CPzgUfr9BH5_tbFkY"⟩⟩

theorem unmodified_taken :
    let s : KeySource := ⟨"", none, 10, fun _ => .answered unmodified⟩
    let source : TokenSource := .authority ⟨sampleIdentity, 10, 60⟩ fun _ => .answered unmodified
    ¬ unmodified.Succeeds ∧
    (∃ key, (s.lookup none .empty).1 = .ok key ∧ (s.lookup none .empty).2.entry = some key) ∧
    (source.acquire (.int 0) "" .empty).1 = .ok "t" := by
  intro s source
  obtain ⟨looked, asked⟩ := unmodified.taken_unless_refused
  have computed : (s.ofOutcome (.answered unmodified.succeeded)).toOption.isSome = true ∧
      ((Acquirer.mk sampleIdentity 10 60).request (.int 0) "").toOption.isSome = true ∧
      (Acquirer.ofOutcome "" (.answered unmodified)).toOption = some (.proper "t") := by
    decide +kernel
  obtain ⟨served, made, issued⟩ := computed
  obtain ⟨key, given⟩ := Option.isSome_iff_exists.mp served
  obtain ⟨request, made⟩ := Option.isSome_iff_exists.mp made
  rw [toOption_eq_some_iff] at given made issued
  have serves := KeySource.ofOutcome_eq_ok_iff.mp given
  have permitted : ¬ unmodified.Refuses := by simp [Response.Refuses, unmodified]
  have takesKey := looked s none .empty rfl rfl rfl
  obtain ⟨_, takesToken⟩ := asked ⟨sampleIdentity, 10, 60⟩ (fun _ => .answered unmodified) (.int 0)
    "" .empty request made rfl
  refine ⟨by simp [Response.Succeeds, unmodified], ⟨key, ?_, ?_⟩, ?_⟩
  · exact (takesKey.found key).mpr ⟨permitted, serves, fun _ impossible => by cases impossible⟩
  · exact (takesKey.kept key).mpr ⟨permitted, serves⟩
  · exact (takesToken.issued "t").mpr (Acquirer.ofOutcome_answered_iff.mp issued)

end TokenGate
