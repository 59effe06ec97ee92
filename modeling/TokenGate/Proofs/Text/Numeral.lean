import Mathlib.Data.List.Forall2
import Mathlib.Data.Nat.Digits.Defs
import TokenGate.Proofs.Text.Trimming
import TokenGate.Text.Numeral

/-! Which texts of digits denote an integer. Decimal digits of any script denote the number that
their places give. A text with another digit in it, or with too many of them, consists of digits
all the same, but none is read from it.
-/

set_option autoImplicit false

namespace TokenGate.Text

abbrev Decimals : List Char → List Nat → Prop :=
  List.Forall₂ fun c d => decimalValue? c = some d

/-- Decimal digits denote a number by their places, the last one by ones. -/
def Numeral (cs : List Char) (n : Nat) : Prop :=
  cs ≠ [] ∧ ∃ ds, Decimals cs ds ∧ n = Nat.ofDigits 10 ds.reverse

/-- A text of digits that denotes no integer all the same: one of them has no place in a numeral,
or they are too many. -/
structure Deceptive (cs : List Char) : Prop where
  digits : ∀ c ∈ cs, isDigit c = true
  unread : (∃ c ∈ cs, decimalValue? c = none) ∨ greatestSize < cs.length

variable {cs text : List Char} {ds : List Nat} {c : Char} {d n : Nat}

def blanks : List Nat :=
  [9, 10, 11, 12, 13, 28, 29, 30, 31, 32, 0x85, 0xa0, 0x1680, 0x2000, 0x2001, 0x2002, 0x2003,
   0x2004, 0x2005, 0x2006, 0x2007, 0x2008, 0x2009, 0x200a, 0x2028, 0x2029, 0x202f, 0x205f, 0x3000]

theorem mem_blanks (blank : isBlank c = true) : c.toNat ∈ blanks := by
  simp only [isBlank, Bool.or_eq_true, Bool.and_eq_true, decide_eq_true_eq, beq_iff_eq] at blank
  simp only [blanks, List.mem_cons, List.not_mem_nil, or_false]
  omega

theorem isBlank_of_isDigit (digit : isDigit c = true) : isBlank c = false := by
  have none_is : ∀ n ∈ blanks, isDigit (Char.ofNat n) = false := by decide
  by_contra blank
  have other := none_is c.toNat (mem_blanks (by simpa using blank))
  rw [Char.ofNat_toNat, digit] at other
  cases other

theorem Decimals.value (decimals : Decimals cs ds) : ∀ c ∈ cs, ∃ d, decimalValue? c = some d := by
  induction decimals with
  | nil => simp
  | cons value _ ih =>
    rw [List.forall_mem_cons]
    exact ⟨⟨_, value⟩, ih⟩

theorem Decimals.digits (decimals : Decimals cs ds) : ∀ c ∈ cs, isDigit c = true := by
  intro c member
  obtain ⟨d, value⟩ := decimals.value c member
  exact isDigit_of_decimalValue? value

theorem decimals_or_lone (cs : List Char) :
    (∃ ds, Decimals cs ds) ∨ ∃ c ∈ cs, decimalValue? c = none := by
  induction cs with
  | nil => exact .inl ⟨[], .nil⟩
  | cons c rest ih =>
    cases value : decimalValue? c with
    | none => exact .inr ⟨c, List.mem_cons_self, value⟩
    | some d =>
      obtain ⟨ds, decimals⟩ | ⟨e, member, lone⟩ := ih
      · exact .inl ⟨d :: ds, .cons value decimals⟩
      · exact .inr ⟨e, List.mem_cons_of_mem _ member, lone⟩

theorem ofDigits_eq (ds : List Nat) : ofDigits ds = Nat.ofDigits 10 ds.reverse := by
  rw [Nat.ofDigits_eq_foldr, List.foldr_reverse, ofDigits]
  simp only [Nat.cast_id, Nat.add_comm]

theorem takeDigits_cons_some (value : decimalValue? c = some d) (rest : List Char) :
    takeDigits (c :: rest) = (d :: (takeDigits rest).1, (takeDigits rest).2) := by
  have other : c ≠ '_' := by
    rintro rfl
    have lone : decimalValue? '_' = none := by decide
    rw [lone] at value
    cases value
  rw [takeDigits.eq_def]
  split
  · next none_left => cases none_left
  · next same => exact absurd (List.cons.inj same).1 other
  · next same =>
    obtain ⟨rfl, rfl⟩ := List.cons.inj same
    rw [value]

theorem takeDigits_cons_none (lone : decimalValue? c = none) (digit : isDigit c = true)
    (rest : List Char) : takeDigits (c :: rest) = ([], c :: rest) := by
  have other : c ≠ '_' := by
    rintro rfl
    exact absurd digit (by decide)
  rw [takeDigits.eq_def]
  split
  · next none_left => cases none_left
  · next same => exact absurd (List.cons.inj same).1 other
  · next same =>
    obtain ⟨rfl, rfl⟩ := List.cons.inj same
    rw [lone]

theorem takeDigits_of_decimals (decimals : Decimals cs ds) : takeDigits cs = (ds, []) := by
  induction decimals with
  | nil => rfl
  | cons value _ ih => rw [takeDigits_cons_some value, ih]

/-- Reading stops at the first digit that has no place in a numeral. -/
theorem takeDigits_of_lone (digits : ∀ c ∈ cs, isDigit c = true)
    (lone : ∃ c ∈ cs, decimalValue? c = none) :
    ∃ ds c rest, takeDigits cs = (ds, c :: rest) ∧ isDigit c = true := by
  induction cs with
  | nil => simp at lone
  | cons c rest ih =>
    obtain ⟨digit, digits⟩ := List.forall_mem_cons.mp digits
    cases value : decimalValue? c with
    | none => exact ⟨[], c, rest, takeDigits_cons_none value digit rest, digit⟩
    | some d =>
      have later : ∃ c ∈ rest, decimalValue? c = none := by simpa [value] using lone
      obtain ⟨ds, e, tail, taken, digit⟩ := ih digits later
      exact ⟨d :: ds, e, tail, by rw [takeDigits_cons_some value, taken], digit⟩

theorem readInt_of_digits (digits : ∀ c ∈ cs, isDigit c = true) :
    readInt cs = (readMagnitude (String.ofList cs) cs).map Int.ofNat := by
  cases cs with
  | nil => rfl
  | cons c rest =>
    have digit := digits c List.mem_cons_self
    have stays : (c :: rest).dropWhile isNumeralBlank = c :: rest := by
      simp [isNumeralBlank, isBlank_of_isDigit digit]
    rw [readInt, stays]
    split
    · next same =>
      -- No sign is a digit.
      rw [(List.cons.inj same).1] at digit
      exact absurd digit (by decide)
    · next same =>
      rw [(List.cons.inj same).1] at digit
      exact absurd digit (by decide)
    · rfl

theorem readInt_of_numeral (numeral : Numeral cs n) (short : cs.length ≤ greatestSize) :
    readInt cs = .ok n := by
  obtain ⟨something, ds, decimals, rfl⟩ := numeral
  rw [readInt_of_digits decimals.digits]
  cases decimals with
  | nil => exact absurd rfl something
  | @cons c d rest ds value decimals =>
    have size : ds.length + 1 ≤ greatestSize := by
      rw [← decimals.length_eq]
      exact short
    rw [readMagnitude, value]
    simp only [takeDigits_of_decimals decimals, List.head?_nil, reduceCtorEq, if_false,
      Nat.not_lt.mpr size, List.all_nil, if_true, Except.map, ofDigits_eq]
    rfl

theorem Deceptive.readInt_eq (deceptive : Deceptive cs) : ∃ cause, readInt cs = .error cause := by
  rw [readInt_of_digits deceptive.digits]
  cases cs with
  | nil => exact ⟨_, rfl⟩
  | cons c rest =>
    rw [readMagnitude]
    cases value : decimalValue? c with
    | none => exact ⟨_, rfl⟩
    | some first =>
      obtain ⟨-, digits⟩ := List.forall_mem_cons.mp deceptive.digits
      obtain ⟨ds, decimals⟩ | lone := decimals_or_lone rest
      · -- All of them are decimal, so they are too many.
        have whole : Decimals (c :: rest) (first :: ds) := .cons value decimals
        have long : greatestSize < ds.length + 1 := by
          rw [← List.length_cons, ← whole.length_eq]
          refine deceptive.unread.resolve_left ?_
          rintro ⟨e, member, lone⟩
          obtain ⟨d, value⟩ := whole.value e member
          cases lone.symm.trans value
        simp only [takeDigits_of_decimals decimals, List.head?_nil, reduceCtorEq, if_false, long,
          if_true]
        exact ⟨_, rfl⟩
      · -- What is left begins with a digit, so that it is not blank.
        obtain ⟨ds, e, tail, taken, digit⟩ := takeDigits_of_lone digits lone
        have seen : (e :: tail).all isNumeralBlank = false := by
          simp [isNumeralBlank, isBlank_of_isDigit digit]
        simp only [taken, seen, Bool.false_eq_true, if_false]
        split
        · exact ⟨_, rfl⟩
        · split
          · exact ⟨_, rfl⟩
          · exact ⟨_, rfl⟩

end TokenGate.Text
