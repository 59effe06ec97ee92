import Mathlib.Data.List.TakeDrop
import TokenGate.Json.Reader
import TokenGate.Json.Writer

/-! Texts and integers are read back as they were written: each character of a text, whichever
escape it was given, and the digits of an integer, if what follows does not go on with them.
-/

set_option autoImplicit false

namespace TokenGate.Json

variable {dialect : Dialect} {rest : List CodePoint} {n : Nat}

/-! Texts -/

theorem hexValue?_hexDigit : ∀ n < 16, hexValue? (.char (Text.hexDigit n)) = some n := by decide

theorem exists_hexFixed (small : n < 0x10000) :
    ∃ a b c d, Text.hexFixed 4 n = [a, b, c, d] ∧
      unit? (.char a) (.char b) (.char c) (.char d) = some n := by
  refine ⟨_, _, _, _, rfl, ?_⟩
  have digit := fun m => hexValue?_hexDigit (m % 16) (Nat.mod_lt m (by decide))
  simp only [unit?, digit, bind, Option.bind_some]
  congr 1
  omega

theorem isHigh_iff : isHigh n = true ↔ 0xd800 ≤ n ∧ n < 0xdc00 := by
  simp only [isHigh, Bool.and_eq_true, decide_eq_true_eq]

theorem isLow_iff : isLow n = true ↔ 0xdc00 ≤ n ∧ n < 0xe000 := by
  simp only [isLow, Bool.and_eq_true, decide_eq_true_eq]

theorem char_number (c : Char) : c.toNat < 0xd800 ∨ (0xdfff < c.toNat ∧ c.toNat < 0x110000) :=
  c.valid

theorem not_half (c : Char) : isHigh c.toNat = false ∧ isLow c.toNat = false := by
  have number := char_number c
  rw [← Bool.not_eq_true, ← Bool.not_eq_true, isHigh_iff, isLow_iff]
  omega

theorem stringFrom_unitEscape (small : n < 0x10000) (whole : isHigh n = false ∧ isLow n = false) :
    stringFrom dialect none ((unitEscape n).map .char ++ rest) =
      (stringFrom dialect none rest).map fun r => (.ofNat n :: r.1, r.2) := by
  obtain ⟨a, b, c, d, written, unit⟩ := exists_hexFixed small
  simp [unitEscape, written, stringFrom, unit, whole]

theorem stringFrom_halves {high low : Nat} (first : isHigh high = true)
    (second : isLow low = true) :
    stringFrom dialect none ((unitEscape high).map .char ++ ((unitEscape low).map .char ++ rest)) =
      (stringFrom dialect none rest).map fun r => (.char (joinHalves high low) :: r.1, r.2) := by
  obtain ⟨-, smallHigh⟩ := isHigh_iff.mp first
  obtain ⟨-, smallLow⟩ := isLow_iff.mp second
  obtain ⟨a, b, c, d, written, unit⟩ := exists_hexFixed (Nat.lt_trans smallHigh (by decide))
  obtain ⟨e, f, g, h, writtenToo, unitToo⟩ := exists_hexFixed (Nat.lt_trans smallLow (by decide))
  simp [unitEscape, written, writtenToo, stringFrom, unit, unitToo, first, second, lowHalf?]

theorem stringFrom_short {e : CodePoint} {c : Char} (short : shortEscape? e = some c) :
    stringFrom dialect none (.char '\\' :: e :: rest) =
      (stringFrom dialect none rest).map fun r => (.char c :: r.1, r.2) := by
  have other : e ≠ .char 'u' := by
    rintro rfl
    cases short
  simp [stringFrom, short, other]

theorem stringFrom_plain {p : CodePoint} (quote : p ≠ .char '"') (backslash : p ≠ .char '\\')
    (shown : 32 ≤ p.toNat) :
    stringFrom dialect none (p :: rest) =
      (stringFrom dialect none rest).map fun r => (p :: r.1, r.2) := by
  simp [stringFrom, backslash, Nat.not_lt.mpr shown]

theorem stringFrom_escapeChar (c : Char) :
    stringFrom dialect none ((escapeChar c).map .char ++ rest) =
      (stringFrom dialect none rest).map fun r => (.char c :: r.1, r.2) := by
  have number := char_number c
  simp only [escapeChar]
  split_ifs with quote backslash newline carriage tab back feed shown small
  -- Seven characters have an escape of their own.
  iterate 7
    · subst_vars
      exact stringFrom_short rfl
  · exact stringFrom_plain (mt CodePoint.char.inj quote) (mt CodePoint.char.inj backslash) shown.1
  · rw [stringFrom_unitEscape small (not_half c), CodePoint.ofNat_toNat]
  · -- Both halves give the number of the character again.
    have joined : 0x10000 + (0xd800 + (c.toNat - 0x10000) / 0x400 - 0xd800) * 0x400 +
        (0xdc00 + (c.toNat - 0x10000) % 0x400 - 0xdc00) = c.toNat := by
      omega
    rw [List.map_append, List.append_assoc,
      stringFrom_halves (isHigh_iff.mpr (by omega)) (isLow_iff.mpr (by omega)), joinHalves, joined,
      Char.ofNat_toNat]

theorem stringFrom_escaped (cs : List Char) :
    stringFrom dialect none ((cs.flatMap escapeChar).map .char ++ .char '"' :: rest) =
      .ok (cs.map .char, rest) := by
  induction cs with
  | nil => rfl
  | cons c cs ih =>
    rw [List.flatMap_cons, List.map_append, List.append_assoc, stringFrom_escapeChar, ih]
    rfl

/-! Integers -/

def Ends (rest : List CodePoint) : Prop :=
  ∀ p, rest.head? = some p → p = .char ',' ∨ p = .char ']' ∨ p = .char '\x7d'

theorem isDecimal_of_mem_toDigits {c : Char} (member : c ∈ Nat.toDigits 10 n) :
    isDecimal (.char c) = true :=
  Nat.isDigit_of_mem_toDigits (by decide) (by decide) member

theorem toDigits_begins (positive : n ≠ 0) :
    ∃ c cs, Nat.toDigits 10 n = c :: cs ∧ c ≠ '0' := by
  have digits : ∀ m < 10, m ≠ 0 → Nat.digitChar m ≠ '0' := by decide
  induction n using Nat.strongRecOn with
  | ind n ih =>
    by_cases small : n < 10
    · exact ⟨_, [], Nat.toDigits_of_lt_base small, digits n small positive⟩
    · have large : 10 ≤ n := Nat.not_lt.mp small
      obtain ⟨c, cs, begins, other⟩ := ih (n / 10) (by omega) (by omega)
      refine ⟨c, cs ++ [Nat.digitChar (n % 10)], ?_, other⟩
      rw [Nat.toDigits_of_base_le (by decide) large, begins, List.cons_append]

theorem Ends.not_decimal (ends : Ends rest) : ∀ c, rest.head? = some c → isDecimal c = false := by
  intro c first
  obtain rfl | rfl | rfl := ends c first <;> rfl

theorem Ends.fractionPart_eq (ends : Ends rest) : fractionPart rest = none := by
  cases rest with
  | nil => rfl
  | cons c rest => obtain rfl | rfl | rfl := ends c rfl <;> rfl

theorem Ends.exponentPart_eq (ends : Ends rest) : exponentPart rest = none := by
  cases rest with
  | nil => rfl
  | cons c rest => obtain rfl | rfl | rfl := ends c rfl <;> rfl

theorem isDecimal_of_mem_numeral {p : CodePoint} (member : p ∈ (Nat.toDigits 10 n).map .char) :
    isDecimal p = true := by
  obtain ⟨c, there, rfl⟩ := List.mem_map.mp member
  exact isDecimal_of_mem_toDigits there

theorem decimalDigits_append {ds : List CodePoint} (digits : ∀ c ∈ ds, isDecimal c = true)
    (other : ∀ c, rest.head? = some c → isDecimal c = false) :
    decimalDigits (ds ++ rest) = (ds, rest) := by
  have stops : rest.takeWhile isDecimal = [] ∧ rest.dropWhile isDecimal = rest := by
    cases rest with
    | nil => exact ⟨rfl, rfl⟩
    | cons c rest => simp [other c rfl]
  rw [decimalDigits, List.span_eq_takeWhile_dropWhile, List.takeWhile_append_of_pos digits,
    List.dropWhile_append_of_pos digits, stops.1, stops.2, List.append_nil]

theorem integerPart_toDigits (ends : Ends rest) :
    integerPart ((Nat.toDigits 10 n).map .char ++ rest) =
      some ((Nat.toDigits 10 n).map .char, rest) := by
  by_cases zero : n = 0
  · subst zero
    rfl
  · -- The digits do not start with a zero, which would stand alone.
    obtain ⟨c, cs, begins, other⟩ := toDigits_begins zero
    have first : isDecimal (.char c) = true :=
      isDecimal_of_mem_toDigits (begins ▸ List.mem_cons_self)
    have digits : ∀ p ∈ (Nat.toDigits 10 n).map .char, isDecimal p = true :=
      fun _ => isDecimal_of_mem_numeral
    have whole := decimalDigits_append digits ends.not_decimal
    rw [begins, List.map_cons] at whole ⊢
    rw [List.cons_append, integerPart, if_pos first, ← List.cons_append, whole]
    exact fun same => other (CodePoint.char.inj same)

theorem natOfDigits_toDigits (n : Nat) : natOfDigits ((Nat.toDigits 10 n).map .char) = n := by
  rw [natOfDigits, List.foldl_map]
  exact Nat.ofDigitChars_eq_foldl.symm.trans Nat.ofDigitChars_ten_toDigits

theorem length_toDigits_le {size : Nat} (positive : 0 < size) (short : n < Nat.pow 10 size) :
    (Nat.toDigits 10 n).length ≤ size :=
  (Nat.length_toDigits_le_iff (by decide) positive).mpr short

theorem magnitude_toDigits (negative : Bool) (short : n < Nat.pow 10 Text.greatestSize)
    (ends : Ends rest) :
    magnitude plain negative ((Nat.toDigits 10 n).map .char ++ rest) =
      .ok (.int (if negative then -n else n), rest) := by
  have size := length_toDigits_le (by decide) short
  simp [magnitude, integerPart_toDigits ends, ends.fractionPart_eq, ends.exponentPart_eq,
    natOfDigits_toDigits, plain, Nat.not_lt.mpr size]

end TokenGate.Json
