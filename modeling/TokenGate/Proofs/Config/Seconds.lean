import TokenGate.Proofs.Config.Settings
import TokenGate.Proofs.Text.Numeral

/-! What becomes of settings that should be numbers of seconds. A numeral sets its number, if that
is positive, and any other text leaves the default, with one exception: a text of nothing but digits
from which no integer is read ends the reading of all settings.
-/

set_option autoImplicit false

namespace TokenGate

namespace Text

variable {cs : List Char} {n : Nat}

theorem Numeral.unique {m : Nat} (first : Numeral cs m) (second : Numeral cs n) : m = n := by
  obtain ⟨-, ds, decimals, rfl⟩ := first
  obtain ⟨-, es, others, rfl⟩ := second
  have functional : Relator.RightUnique fun (c : Char) (d : Nat) => decimalValue? c = some d :=
    fun _ _ _ one other => Option.some.inj (one.symm.trans other)
  rw [functional.forall₂ decimals others]

theorem not_deceptive_nil : ¬ Deceptive [] := by
  rintro ⟨-, unread⟩
  simp at unread

/-- A text that is neither deceptive nor blank has a character that is no digit, or it is a numeral
that is not too long. -/
theorem numeral_of_digits (something : cs ≠ []) (digits : ∀ c ∈ cs, isDigit c = true)
    (honest : ¬ Deceptive cs) : (∃ n, Numeral cs n) ∧ cs.length ≤ greatestSize := by
  have readable : ¬ ((∃ c ∈ cs, decimalValue? c = none) ∨ greatestSize < cs.length) :=
    fun unread => honest ⟨digits, unread⟩
  rw [not_or, Nat.not_lt] at readable
  obtain ⟨ds, decimals⟩ := (decimals_or_lone cs).resolve_right readable.1
  exact ⟨⟨_, something, ds, decimals, rfl⟩, readable.2⟩

end Text

namespace Config

open Text

/-- How many seconds a text means: a positive numeral its number, and anything else the default. -/
inductive Means (default : Int) (cs : List Char) : Int → Prop where
  | told {n : Nat} : Numeral cs n → 1 ≤ n → Means default cs n
  | untold : (∀ n, Numeral cs n → n = 0) → Means default cs default

variable {env : Environment} {name : String} {default : Int}

theorem means_of_mark {cs : List Char} {c : Char} (member : c ∈ cs) (mark : isDigit c = false) :
    Means default cs default := by
  refine .untold ?_
  rintro n ⟨-, ds, decimals, -⟩
  rw [decimals.digits c member] at mark
  cases mark

theorem means_of_numeral {cs : List Char} {n : Nat} (numeral : Numeral cs n) :
    Means default cs (if (n : Int) = 0 then default else n) := by
  split
  · next zero =>
    refine .untold fun m other => ?_
    rw [other.unique numeral]
    exact_mod_cast zero
  · next positive =>
    exact .told numeral (Nat.one_le_iff_ne_zero.mpr (by exact_mod_cast positive))

theorem seconds_cases (env : Environment) (name : String) (default : Int) :
    let cs := trim (env.text name)
    (Deceptive cs ∧ ∃ cause, seconds env name default = .error (.numeral cause)) ∨
    (¬ Deceptive cs ∧ ∃ n, seconds env name default = .ok n ∧ Means default cs n) := by
  intro cs
  by_cases blank : Blank (env.text name)
  · -- Nothing is told.
    have nothing : cs = [] := trim_of_blank blank
    refine .inr ⟨nothing ▸ not_deceptive_nil, default, ?_, ?_⟩
    · rw [seconds, setting?_of_blank blank]
    · exact .untold fun n numeral => absurd nothing numeral.1
  · have something : cs ≠ [] := fun nothing => blank (trim_eq_nil_iff.mp nothing)
    have told : trim (env.text name) = cs := rfl
    rw [seconds, setting?_of_seen blank, told]
    simp only [String.toList_ofList]
    cases digits : cs.all isDigit with
    | false =>
      obtain ⟨c, member, mark⟩ := List.all_eq_false.mp digits
      rw [Bool.not_eq_true] at mark
      refine .inr ⟨fun deceptive => ?_, default, rfl, means_of_mark member mark⟩
      rw [deceptive.digits c member] at mark
      cases mark
    | true =>
      have all : ∀ c ∈ cs, isDigit c = true := List.all_eq_true.mp digits
      -- All are digits, but they need not be decimal or few enough.
      by_cases deceptive : Deceptive cs
      · obtain ⟨cause, failed⟩ := deceptive.readInt_eq
        refine .inl ⟨deceptive, cause, ?_⟩
        rw [failed]
        rfl
      · obtain ⟨⟨n, numeral⟩, short⟩ := numeral_of_digits something all deceptive
        refine .inr ⟨deceptive, _, ?_, means_of_numeral numeral⟩
        rw [readInt_of_numeral numeral short]
        rfl

theorem seconds_positive {n : Int} (positive : 1 ≤ default)
    (read : seconds env name default = .ok n) : 1 ≤ n := by
  obtain ⟨-, cause, failed⟩ | ⟨-, m, ok, means⟩ := seconds_cases env name default
  · cases read.symm.trans failed
  · cases read.symm.trans ok
    cases means with
    | told _ least => exact_mod_cast least
    | untold => exact positive

/-- Required settings that are unset or blank are named in a fault, in their order. With all of them
there, a number of seconds is set by a positive numeral and is the default for any other text,
unless one of both texts is deceptive; then that text ends in a fault. -/
theorem ofEnvironment_falls_back (env : Environment) :
    let timeout := trim (env.text "DAPS_HTTP_TIMEOUT_SECONDS")
    let lifetime := trim (env.text "DAPS_ASSERTION_LIFETIME_SECONDS")
    let missing := ["DAPS_TOKEN_URL", "DAPS_KEY_URL"].filter fun name => (env.text name).all isBlank
    (missing ≠ [] → ∃ fault, ofEnvironment env = .error fault ∧ fault.kind = .value ∧
      fault.message = "Missing DAPS settings: " ++ ", ".intercalate missing) ∧
    (missing = [] → ¬ Deceptive timeout → ¬ Deceptive lifetime →
      ∃ c, ofEnvironment env = .ok c ∧
        Means 10 timeout c.timeout ∧ Means 86400 lifetime c.assertionLifetime) ∧
    (missing = [] → Deceptive timeout ∨ Deceptive lifetime →
      ∃ cause, ofEnvironment env = .error (.numeral cause)) := by
  intro timeout lifetime missing
  have same : requiredSettings.filter (fun name => (setting? env name).isNone) = missing := by
    simp only [setting?_isNone]
    rfl
  -- What is required is looked for before any number is read.
  refine ⟨fun lacking => ?_, fun present honest honestToo => ?_, fun present deceptive => ?_⟩
  · rw [← same] at lacking
    exact ⟨_, ofEnvironment_of_missing lacking, rfl, by rw [same]; rfl⟩
  · rw [← same] at present
    obtain ⟨n, read, means⟩ :=
      ((seconds_cases env "DAPS_HTTP_TIMEOUT_SECONDS" 10).resolve_left fun d => honest d.1).2
    obtain ⟨m, readToo, meansToo⟩ :=
      ((seconds_cases env "DAPS_ASSERTION_LIFETIME_SECONDS" 86400).resolve_left
        fun d => honestToo d.1).2
    refine ⟨timed env n m, ?_, means, meansToo⟩
    rw [ofEnvironment_of_present present, defaultTimeout, read, defaultLifetime, readToo]
    rfl
  · rw [← same] at present
    rw [ofEnvironment_of_present present, defaultTimeout, defaultLifetime]
    obtain ⟨-, cause, failed⟩ | ⟨honest, n, read, -⟩ :=
      seconds_cases env "DAPS_HTTP_TIMEOUT_SECONDS" 10
    · exact ⟨cause, by rw [failed]; rfl⟩
    · -- The first one is read, so that it is the second one that ends in the fault.
      obtain ⟨-, cause, failed⟩ :=
        (seconds_cases env "DAPS_ASSERTION_LIFETIME_SECONDS" 86400).resolve_right
          fun h => h.1 (deceptive.resolve_left honest)
      exact ⟨cause, by rw [read, failed]; rfl⟩

def hurried (timeout : String) : Environment :=
  [("DAPS_TOKEN_URL", "t"), ("DAPS_KEY_URL", "k"), ("DAPS_HTTP_TIMEOUT_SECONDS", timeout)]

/-- A superscript two is a digit, but it ends the reading. -/
theorem superscript_aborts :
    (∃ cause, ofEnvironment (hurried "²") = .error (.numeral cause)) ∧
    (∃ c, ofEnvironment (hurried "-2 ") = .ok c ∧ Means 10 ['-', '2'] c.timeout) ∧
    (∃ fault, ofEnvironment [("DAPS_KEY_URL", "k"), ("DAPS_HTTP_TIMEOUT_SECONDS", "²")] =
      .error fault ∧ fault.kind = .value ∧
        fault.message = "Missing DAPS settings: DAPS_TOKEN_URL") := by
  refine ⟨?_, ?_, ?_⟩
  · exact (ofEnvironment_falls_back (hurried "²")).2.2 (by decide)
      (.inl ⟨List.all_eq_true.mp (by decide), .inl ⟨'²', by decide, by decide⟩⟩)
  · have unset : trim ((hurried "-2 ").text "DAPS_ASSERTION_LIFETIME_SECONDS") = [] := rfl
    obtain ⟨c, read, means, -⟩ := (ofEnvironment_falls_back (hurried "-2 ")).2.1 (by decide)
      (fun deceptive => absurd (deceptive.digits '-' (by decide)) (by decide))
      (unset ▸ not_deceptive_nil)
    exact ⟨c, read, means⟩
  · exact (ofEnvironment_falls_back
      [("DAPS_KEY_URL", "k"), ("DAPS_HTTP_TIMEOUT_SECONDS", "²")]).1 (by decide)

end Config

end TokenGate
