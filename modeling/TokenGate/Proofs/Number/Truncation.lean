import Mathlib.Data.Rat.Floor
import Mathlib.Tactic.Positivity
import TokenGate.Number.Binary64

/-! A binary64 number is cut to an integer toward zero: what is left is the floor of a number that
is not negative, and the ceiling of any other one.
-/

set_option autoImplicit false

namespace TokenGate

def whole (q : ℚ) : Int := if 0 ≤ q then ⌊q⌋ else ⌈q⌉

theorem whole_of_nonneg {q : ℚ} (nonneg : 0 ≤ q) : whole q = ⌊q⌋ := if_pos nonneg

theorem whole_intCast (n : Int) : whole n = n := by
  rw [whole, Int.floor_intCast, Int.ceil_intCast, ite_self]

theorem whole_neg (q : ℚ) : whole (-q) = -whole q := by
  rcases lt_trichotomy q 0 with negative | rfl | positive
  · rw [whole, whole, if_pos (by linarith), if_neg (by linarith), Int.floor_neg]
  · simp [whole]
  · rw [whole, whole, if_neg (by linarith), if_pos (by linarith), Int.ceil_neg]

theorem whole_le {q : ℚ} (nonneg : 0 ≤ q) : (whole q : ℚ) ≤ q ∧ q < whole q + 1 := by
  rw [whole_of_nonneg nonneg]
  exact ⟨Int.floor_le q, Int.lt_floor_add_one q⟩

namespace Binary64

theorem powerOfTwo_nonneg (e : Int) : 0 ≤ powerOfTwo e := by
  cases e with
  | ofNat n => rw [powerOfTwo]; positivity
  | negSucc n => rw [powerOfTwo, Rat.mkRat_eq_div]; positivity

theorem truncate?_finite (negative : Bool) (m : Nat) (e : Int) :
    (finite negative m e).truncate? =
      some (if negative then -⌊(m : ℚ) * powerOfTwo e⌋ else ⌊(m : ℚ) * powerOfTwo e⌋) := by
  cases e with
  | ofNat n =>
    have cut : ⌊(m : ℚ) * powerOfTwo (.ofNat n)⌋ = (m * Nat.pow 2 n : Nat) := by
      rw [powerOfTwo, ← Nat.cast_mul, Int.floor_natCast]
    rw [cut]
    rfl
  | negSucc n =>
    have cut : ⌊(m : ℚ) * powerOfTwo (.negSucc n)⌋ = (m / Nat.pow 2 (n + 1) : Nat) := by
      rw [powerOfTwo, Rat.mkRat_eq_div, Int.cast_one, mul_one_div, Rat.floor_natCast_div_natCast]
      rfl
    rw [cut]
    rfl

theorem truncate?_eq {x : Binary64} {q : ℚ} (place : x.extended? = some (.number q)) :
    x.truncate? = some (whole q) := by
  cases x with
  | nan => cases place
  | infinite negative => cases negative <;> cases place
  | finite negative m e =>
    have cut := whole_of_nonneg (mul_nonneg m.cast_nonneg (powerOfTwo_nonneg e))
    cases place
    cases negative with
    | false => simp [truncate?_finite, toRat, cut]
    | true => simp [truncate?_finite, toRat, whole_neg, cut]

end Binary64

end TokenGate
