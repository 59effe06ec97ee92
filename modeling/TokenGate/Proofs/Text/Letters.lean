import Mathlib.Data.List.Forall2
import TokenGate.Proofs.Text.Utf8
import TokenGate.Text.Capital

/-! Words in any case of letters. A text has the small letters of a word if each letter of the word
stands in it, small or as a capital.
-/

set_option autoImplicit false

namespace TokenGate.Text

/-- The letters of a word of small letters, each of them small or as a capital. -/
def InAnyCase (cs word : List Char) : Prop :=
  List.Forall₂ (fun c letter => c = letter ∨ c = capital letter) cs word

variable {cs word : List Char} {c letter : Char}

theorem toNat_ofNat {n : Nat} (ascii : n < 0x80) : (Char.ofNat n).toNat = n := by
  have valid : n.isValidChar := .inl (by omega)
  rw [Char.ofNat, dif_pos valid]
  rfl

theorem small_eq_iff (plain : 'a' ≤ letter ∧ letter ≤ 'z') :
    small c = letter ↔ c = letter ∨ c = capital letter := by
  have least : 97 ≤ letter.toNat := plain.1
  have greatest : letter.toNat ≤ 122 := plain.2
  -- By the numbers of the letters: 32 lies between a capital and its small letter.
  simp only [← Char.toNat_inj]
  rw [capital, if_pos plain, toNat_ofNat (by omega), small]
  split
  · next large =>
    have least : 65 ≤ c.toNat := large.1
    have greatest : c.toNat ≤ 90 := large.2
    rw [toNat_ofNat (by omega)]
    omega
  · next other =>
    have outside : ¬ (65 ≤ c.toNat ∧ c.toNat ≤ 90) := other
    omega

theorem inAnyCase_iff (plain : ∀ letter ∈ word, 'a' ≤ letter ∧ letter ≤ 'z') :
    InAnyCase cs word ↔ smalls cs = word := by
  unfold InAnyCase
  induction word generalizing cs with
  | nil => simp [smalls]
  | cons letter word ih =>
    obtain ⟨first, others⟩ := List.forall_mem_cons.mp plain
    cases cs with
    | nil => simp [smalls]
    | cons c cs =>
      rw [List.forall₂_cons, ih others, ← small_eq_iff first, smalls, smalls, List.map_cons,
        List.cons.injEq]

end TokenGate.Text
