import Mathlib.Algebra.Order.Field.Rat
import Mathlib.Order.WithBot
import TokenGate.Value.Order

/-! Integers and binary64 numbers are compared at their exact places among the rationals, with an
end on either side for what is infinite. No integer is rounded for the comparison, however large it
is.
-/

set_option autoImplicit false

namespace TokenGate

abbrev Line := WithBot (WithTop ℚ)

/-- The place on the line of an integer or of a binary64 number. Not a number has none. -/
inductive Value.At : Value → Line → Prop where
  | int (n : Int) : At (.int n) ((n : ℚ) : WithTop ℚ)
  | finite (negative : Bool) (m : Nat) (e : Int) :
    At (.float (.finite negative m e)) (Binary64.toRat negative m e : WithTop ℚ)
  | top : At (.float (.infinite false)) ⊤
  | bottom : At (.float (.infinite true)) ⊥

namespace Extended

def place : Extended → Line
  | .bottom => ⊥
  | .number q => (q : WithTop ℚ)
  | .top => ⊤

theorem lt_eq (a b : Extended) : a.lt b = decide (a.place < b.place) := by
  have below (q : ℚ) : ((q : WithTop ℚ) : Line) < ⊤ := WithBot.coe_lt_coe.mpr (WithTop.coe_lt_top q)
  cases a <;> cases b <;> simp [lt, place, below]

end Extended

namespace Value

variable {a b : Value} {p q : Line}

theorem At.measure? (there : a.At p) : ∃ x, a.measure? = some (some x) ∧ x.place = p := by
  cases there with
  | int n => exact ⟨.number n, rfl, rfl⟩
  | finite negative m e => exact ⟨.number _, rfl, rfl⟩
  | top => exact ⟨.top, rfl, rfl⟩
  | bottom => exact ⟨.bottom, rfl, rfl⟩

theorem lt?_of_measure {x y : Option Extended} (first : a.measure? = some x)
    (second : b.measure? = some y) : a.lt? b = some (before x y) := by
  cases a <;> cases first <;> cases b <;> cases second <;> rfl

/-- Of two numbers the one lies before the other exactly if its place does. -/
theorem At.lt?_eq (first : a.At p) (second : b.At q) : a.lt? b = some (decide (p < q)) := by
  obtain ⟨x, measured, rfl⟩ := first.measure?
  obtain ⟨y, measuredToo, rfl⟩ := second.measure?
  rw [lt?_of_measure measured measuredToo, before, Extended.lt_eq]

end Value

end TokenGate
