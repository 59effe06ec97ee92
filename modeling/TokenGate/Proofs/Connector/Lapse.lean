import TokenGate.Proofs.Connector.Agreement
import TokenGate.Proofs.Number.Line
import TokenGate.Proofs.Outbound.Renewal
import TokenGate.Proofs.Rule.Violations

/-! Time takes validity away and gives none back. Of all that is said about claims only the line
that they have expired depends on the clock, and a later clock can do no more than add it.
-/

set_option autoImplicit false

namespace TokenGate

namespace Value

variable {earlier later exp : Value} {p q : Line}

theorem At.isNumber (there : exp.At p) : Rule.isNumber exp = true := by
  cases there <;> rfl

theorem at_or_nan (number : Rule.isNumber exp = true) : (∃ p, exp.At p) ∨ exp = .float .nan := by
  cases exp with
  | null | bool | str | list | object => cases number
  | int n => exact .inl ⟨_, .int n⟩
  | float x =>
    cases x with
    | nan => exact .inr rfl
    | infinite negative => cases negative <;> exact .inl ⟨_, by constructor⟩
    | finite negative m e => exact .inl ⟨_, .finite negative m e⟩

theorem lt?_nan (there : later.At q) : later.lt? (.float .nan) = some false := by
  cases there <;> rfl

theorem lt?_of_le (first : earlier.At p) (second : later.At q) (order : p ≤ q)
    (number : Rule.isNumber exp = true) (ahead : later.lt? exp = some true) :
    earlier.lt? exp = some true := by
  obtain ⟨r, there⟩ | rfl := at_or_nan number
  · rw [second.lt?_eq there, Option.some.injEq, decide_eq_true_iff] at ahead
    rw [first.lt?_eq there, decide_eq_true (order.trans_lt ahead)]
  · rw [lt?_nan second] at ahead
    cases ahead

end Value

variable {earlier later : Value} {p q : Line} {ms : Members}

/-- Lines and the same lines later: no more is added than that the token has expired. -/
def Lapses (lines more : List Text) : Prop :=
  more = lines ∨ ∃ front back, lines = front ++ back ∧
    more = front ++ .proper "token expired" :: back

theorem Lapses.append {lines more : List Text} (lapses : Lapses lines more)
    (front back : List Text) : Lapses (front ++ lines ++ back) (front ++ more ++ back) := by
  rcases lapses with rfl | ⟨before, after, rfl, rfl⟩
  · exact .inl rfl
  · exact .inr ⟨front ++ before, after ++ back, by simp, by simp⟩

theorem Lapses.subset {lines more : List Text} (lapses : Lapses lines more) : lines ⊆ more := by
  rcases lapses with rfl | ⟨front, back, rfl, rfl⟩
  · exact List.Subset.refl _
  · exact (List.sublist_cons_self _ back).append_left front |>.subset

namespace Config

theorem timeObjections_lapse (first : earlier.At p) (second : later.At q) (order : p ≤ q)
    (dated : ¬ Members.Misdated ms) :
    Lapses (timeObjections earlier ms) (timeObjections later ms) := by
  unfold timeObjections
  cases given : Members.given? ms "exp" with
  | none => exact .inl rfl
  | some exp =>
    have number : Rule.isNumber exp = true :=
      Bool.eq_true_of_not_eq_false fun none => dated ⟨exp, given, none⟩
    by_cases ahead : later.lt? exp = some true
    · simp only [ahead, Value.lt?_of_le first second order number ahead]
      exact .inl rfl
    · by_cases aheadBefore : earlier.lt? exp = some true
      · simp only [ahead, aheadBefore]
        exact .inr ⟨[], [], rfl, rfl⟩
      · simp only [ahead, aheadBefore]
        exact .inl rfl

theorem objections_lapse (first : earlier.At p) (second : later.At q) (order : p ≤ q) {c : Config}
    (able : ¬ c.Baffled ms) : Lapses (c.objections earlier ms) (c.objections later ms) := by
  have timed := timeObjections_lapse first second order fun misdated => able (.inl misdated)
  have all := (timed.append (nameObjections ms) (issuerObjections ms c.issuer)).append []
    (profileObjections ms (c.securityProfiles.map .proper))
  exact all

end Config

namespace TokenCache

variable {keys : KeySource} {algorithms : List String} {token : Option Text} {m n : KeyMemory}
  {claims : Members}

theorem Live.of_le (first : earlier.At p) (second : later.At q) (order : p ≤ q)
    (live : Live later claims) : Live earlier claims := by
  obtain ⟨exp, there, number, ahead⟩ := live
  exact ⟨exp, there, number, Value.lt?_of_le first second order number ahead⟩

theorem isFresh_of_le (first : earlier.At p) (second : later.At q) (order : p ≤ q)
    (fresh : isFresh keys algorithms later token m = (.ok true, n)) :
    isFresh keys algorithms earlier token m = (.ok true, n) ∧
      isFresh keys algorithms earlier token n = (.ok true, n) := by
  cases token with
  | none => cases fresh
  | some token =>
    obtain ⟨claims, ⟨key, provided, authentic⟩, live⟩ := isFresh_eq_true_iff.mp fresh
    have alive := live.of_le first second order
    -- The key that was found is kept afterwards.
    exact ⟨isFresh_eq_true_iff.mpr ⟨claims, ⟨key, provided, authentic⟩, alive⟩,
      isFresh_eq_true_iff.mpr ⟨claims, ⟨key, .kept provided.entry, authentic⟩, alive⟩⟩

end TokenCache

/-- Of two clock readings, however large, let the second one be not before the first. Whether claims
can be judged at all does not change from the one to the other, what is wrong with them stays wrong,
and no more is added than that they have expired. A kept token that is fresh at the second reading
is fresh at the first one. -/
theorem validity_only_lapses (first : earlier.At p) (second : later.At q) (order : p ≤ q) :
    (∀ (c : Config) (ms : Members),
      let run := fun now => Chain.validate now (.object ms) c.rules
      ((∃ before, run earlier = .ok before) ↔ ∃ after, run later = .ok after) ∧
      ∀ before after, run earlier = .ok before → run later = .ok after →
        (Report.allPassed after = true → Report.allPassed before = true) ∧
        Lapses (Report.violations before) (Report.violations after) ∧
        (.proper "token expired" ∈ Report.violations before →
          .proper "token expired" ∈ Report.violations after)) ∧
    ∀ (keys : KeySource) (algorithms : List String) (token : Option Text) (m n : KeyMemory),
      TokenCache.isFresh keys algorithms later token m = (.ok true, n) →
        TokenCache.isFresh keys algorithms earlier token m = (.ok true, n) ∧
        TokenCache.isFresh keys algorithms earlier token n = (.ok true, n) := by
  refine ⟨fun c ms => ?_, fun _ _ _ _ _ => TokenCache.isFresh_of_le first second order⟩
  intro run
  have givenBefore := Config.rules_gives first.isNumber c ms
  have givenAfter := Config.rules_gives second.isNumber c ms
  by_cases able : c.Baffled ms
  · -- The rules break off on such claims, whatever the time.
    obtain ⟨fault, broken, -⟩ := givenBefore.fault able
    obtain ⟨faultToo, brokenToo, -⟩ := givenAfter.fault able
    simp [run, broken, brokenToo]
  · obtain ⟨before, told, listed⟩ := givenBefore.reports able
    obtain ⟨after, toldToo, listedToo⟩ := givenAfter.reports able
    have lapses := Config.objections_lapse first second order able
    rw [← listed, ← listedToo] at lapses
    refine ⟨⟨fun _ => ⟨after, toldToo⟩, fun _ => ⟨before, told⟩⟩, ?_⟩
    intro _ _ same sameToo
    cases told.symm.trans same
    cases toldToo.symm.trans sameToo
    refine ⟨fun passed => ?_, lapses, fun expired => lapses.subset expired⟩
    rw [← Report.violations_eq_nil_iff] at passed ⊢
    exact List.eq_nil_of_subset_nil (passed ▸ lapses.subset)

/-- Claims that expire at an instant which is not a binary64 number. -/
def brinkClaims : Members :=
  [("iss", .str "i"), ("sub", .str "s"), ("exp", .int 9007199254740993),
    ("securityProfile", .str "p")]

/-- The last binary64 number before that instant, and the instant itself: rounded they would be the
same. -/
theorem brinkClaims_lapse :
    let earlier : Value := .float (.finite false 4503599627370496 1)
    let later : Value := .int 9007199254740993
    let run := fun now => Chain.validate now (.object brinkClaims) Config.demanding.rules
    (∃ p q, earlier.At p ∧ later.At q ∧ p ≤ q) ∧
    (∃ before after, run earlier = .ok before ∧ run later = .ok after ∧
      Report.violations before = [] ∧ Report.violations after = [.proper "token expired"] ∧
      Lapses (Report.violations before) (Report.violations after)) ∧
    ∃ n, TokenCache.isFresh Provider.exhausted.keys ["HS256"] (.int 8)
      (some Provider.lapsingToken) n = (.ok true, n) := by
  intro earlier later run
  have first : earlier.At (Binary64.toRat false 4503599627370496 1 : WithTop ℚ) := .finite _ _ _
  have second : later.At ((9007199254740993 : ℤ) : ℚ) := .int _
  have order : Binary64.toRat false 4503599627370496 1 ≤ ((9007199254740993 : ℤ) : ℚ) := by
    decide +kernel
  have apart := WithBot.coe_le_coe.mpr (WithTop.coe_le_coe.mpr order)
  have listed : (run earlier).toOption.map Report.violations = some [] ∧
      (run later).toOption.map Report.violations = some [.proper "token expired"] := by
    decide +kernel
  obtain ⟨before, told, passed⟩ := Option.map_eq_some_iff.mp listed.1
  obtain ⟨after, toldToo, expired⟩ := Option.map_eq_some_iff.mp listed.2
  rw [toOption_eq_some_iff] at told toldToo
  have judged := (validity_only_lapses first second apart).1 Config.demanding brinkClaims
  refine ⟨⟨_, _, first, second, apart⟩, ⟨before, after, told, toldToo, passed, expired,
    (judged.2 before after told toldToo).2.1⟩, ?_⟩
  -- The kept token expires at nine, half an hour after the later one of these two readings.
  have fresh : (TokenCache.isFresh Provider.exhausted.keys ["HS256"]
      (.float (.finite false 17 (-1))) (some Provider.lapsingToken) .empty).1.toOption =
        some true := by
    decide +kernel
  have nearer : ((8 : ℤ) : ℚ) ≤ Binary64.toRat false 17 (-1) := by decide +kernel
  rcases judgedToo : TokenCache.isFresh Provider.exhausted.keys ["HS256"]
    (.float (.finite false 17 (-1))) (some Provider.lapsingToken) .empty with ⟨outcome, n⟩
  rw [judgedToo] at fresh
  obtain rfl := toOption_eq_some_iff.mp fresh
  exact ⟨n, ((validity_only_lapses (.int 8) (.finite false 17 (-1))
    (WithBot.coe_le_coe.mpr (WithTop.coe_le_coe.mpr nearer))).2 _ _ _ _ n judgedToo).2⟩

end TokenGate
