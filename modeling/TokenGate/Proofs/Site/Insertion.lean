import TokenGate.Proofs.Inbound.Decoding
import TokenGate.Proofs.Site.Basic

/-! Tokens that name a foreign key change nothing. Where the wanted key is configured by its name,
their validation is refused at once, and nobody can tell whether it was asked for.
-/

set_option autoImplicit false

namespace TokenGate

inductive Inserted {α : Type} (kind : α → Prop) : List α → List α → Prop where
  | nil : Inserted kind [] []
  | keep {a : α} {old new : List α} : Inserted kind old new → Inserted kind (a :: old) (a :: new)
  | insert {a : α} {old new : List α} : kind a → Inserted kind old new →
      Inserted kind old (a :: new)

inductive Connector.Operation.Foreign (k : Text) : Connector.Operation → Prop where
  | decode {token : String} {kid : Text} : Token.Names token.toList kid → kid ≠ k →
      Foreign k (.decode token)
  | validate {token : String} {kid : Text} : Token.Names token.toList kid → kid ≠ k →
      Foreign k (.validate token)

theorem KeySource.isForeign_of_names {s : KeySource} {k kid : Text} {token : List Char}
    (configured : s.keyId = some k) (names : Token.Names token kid) (other : kid ≠ k) :
    s.isForeign (Token.keyName? token) = true := by
  rw [← Bool.not_eq_false, KeySource.isForeign_eq_false_iff configured]
  intro same
  exact other (same kid (Token.keyName?_eq_some_iff.mpr names))

namespace Connector

theorem step_eq_foreign {c : Connector} {k : Text} (configured : c.validator.keys.keyId = some k)
    {op : Operation} (foreign : op.Foreign k) (s : State) :
    c.step s op = (.error .foreignKey, s) := by
  cases foreign with
  | decode names other =>
    have refused := KeySource.isForeign_of_names configured names other
    simp only [step, Validator.decodeClaims_eq_foreign refused, onKeys, withKeys]
    rfl
  | validate names other =>
    have refused := KeySource.isForeign_of_names configured names other
    simp only [step, Validator.validate, Validator.decodeClaims_eq_foreign refused,
      onKeys, withKeys]
    rfl

end Connector

namespace Site

variable {ι : Type} [DecidableEq ι] {site : Site ι} {k : Text}

/-- The turn ends in the fault of a token that cannot be verified. Nothing is fetched, asked for,
kept or dropped in it. -/
structure Event.Inert (e : Event ι) : Prop where
  refused : ∃ fault, e.outcome = .error fault ∧ fault.kind = .tokenVerification
  unmoved : e.after = e.before

theorem event_inert (configured : site.keys.keyId = some k) {op : Connector.Operation}
    (foreign : op.Foreign k) (s : State ι) (i : ι) : (site.event s i op).Inert := by
  rw [← site.validated i] at configured
  have step := Connector.step_eq_foreign configured foreign (s.seenBy i)
  refine ⟨⟨.foreignKey, ?_, rfl⟩, ?_⟩
  · simp only [event, step]
  · simp only [event, step, State.leftBy_seenBy]

/-- Validations of tokens that name a foreign key may be put in anywhere: they are refused, and all
other turns are what they were without them. -/
theorem foreign_calls_inert (configured : site.keys.keyId = some k) (s : State ι)
    {work more : List (ι × Connector.Operation)}
    (inserted : Inserted (fun turn => turn.2.Foreign k) work more) :
    Inserted (fun e => e.op.Foreign k ∧ e.Inert) (site.trace s work) (site.trace s more) ∧
      site.reached s more = site.reached s work := by
  -- On how the calls were put in; the states agree between the calls that both runs have.
  induction inserted generalizing s with
  | nil => exact ⟨.nil, rfl⟩
  | @keep turn _ _ _ ih =>
    obtain ⟨aligned, same⟩ := ih (site.event s turn.1 turn.2).after
    exact ⟨.keep aligned, same⟩
  | @insert turn _ _ foreign _ ih =>
    have inert := event_inert configured foreign s turn.1
    obtain ⟨aligned, same⟩ := ih s
    -- The rest goes on from where the refused call began.
    refine ⟨.insert ⟨foreign, inert⟩ ?_, ?_⟩
    · rw [inert.unmoved]
      exact aligned
    · rw [reached, inert.unmoved]
      exact same

def strangeToken : String := "eyJhbGciOiJSUzI1NiIsImtpZCI6IngifQ.e30.AA"

theorem strangeToken_inert :
    Inserted (fun e => e.op.Foreign "k" ∧ e.Inert)
      (offline.trace start [(true, .findKey none), (true, .provide)])
      (offline.trace start [(true, .findKey none), (false, .decode strangeToken), (true, .provide),
        (true, .validate strangeToken)]) := by
  have names : Token.Names strangeToken.toList "x" :=
    Token.keyName?_eq_some_iff.mp (by decide +kernel)
  have other : Text.proper "x" ≠ "k" := by decide
  refine (foreign_calls_inert rfl start ?_).1
  exact .keep (.insert (.decode names other) (.keep (.insert (.validate names other) .nil)))

end Site

end TokenGate
