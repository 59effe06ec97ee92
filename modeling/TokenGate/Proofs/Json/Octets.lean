import TokenGate.Proofs.Json.ReadBack

/-! A value is read back from the octets of its text, too. The text is written in ASCII without
controls, from which the reader learns the encoding.
-/

set_option autoImplicit false

namespace TokenGate.Json

variable {depth : Nat} {v : Value} {items : List Value} {ms : Members}

def Shown (c : Char) : Prop := 32 ≤ c.toNat ∧ c.toNat < 127

instance (c : Char) : Decidable (Shown c) := inferInstanceAs (Decidable (_ ∧ _))

theorem shown_of_isDecimal {c : Char} (digit : isDecimal (.char c) = true) : Shown c := by
  simp only [isDecimal, Bool.and_eq_true, decide_eq_true_eq, Char.le_def,
    UInt32.le_iff_toNat_le] at digit
  exact ⟨Nat.le_trans (by decide) digit.1, Nat.lt_of_le_of_lt digit.2 (by decide)⟩

theorem shown_hexFixed (width n : Nat) : ∀ c ∈ Text.hexFixed width n, Shown c := by
  have digits : ∀ m < 16, Shown (Text.hexDigit m) := by decide
  induction width generalizing n with
  | zero => simp [Text.hexFixed]
  | succ width ih =>
    rw [Text.hexFixed, List.forall_mem_append, List.forall_mem_singleton]
    exact ⟨ih (n / 16), digits _ (Nat.mod_lt n (by decide))⟩

theorem shown_unitEscape (n : Nat) : ∀ c ∈ unitEscape n, Shown c := by
  rw [unitEscape, List.forall_mem_cons, List.forall_mem_cons]
  exact ⟨by decide, by decide, shown_hexFixed 4 n⟩

theorem shown_escapeChar (c : Char) : ∀ d ∈ escapeChar c, Shown d := by
  simp only [escapeChar]
  split_ifs with h1 h2 h3 h4 h5 h6 h7 shown small
  iterate 7 · simp [Shown]
  · rwa [List.forall_mem_singleton]
  · exact shown_unitEscape _
  · rw [List.forall_mem_append]
    exact ⟨shown_unitEscape _, shown_unitEscape _⟩

theorem shown_escapePoint (p : CodePoint) : ∀ d ∈ escapePoint p, Shown d := by
  cases p with
  | char c => exact shown_escapeChar c
  | half n => exact shown_unitEscape _

theorem shown_writeString (s : Text) : ∀ c ∈ writeString s, Shown c := by
  rw [writeString, List.cons_append, List.forall_mem_cons, List.forall_mem_append,
    List.forall_mem_singleton]
  refine ⟨by decide, fun c member => ?_, by decide⟩
  obtain ⟨d, -, there⟩ := List.mem_flatMap.mp member
  exact shown_escapePoint d c there

theorem shown_intDigits (n : Int) : ∀ c ∈ Text.intDigits n, Shown c := by
  have digits : ∀ c ∈ Nat.toDigits 10 n.natAbs, Shown c :=
    fun c member => shown_of_isDecimal (isDecimal_of_mem_toDigits member)
  rw [Text.intDigits]
  split
  · rw [List.forall_mem_cons]
    exact ⟨by decide, digits⟩
  · exact digits

theorem shown_writeItems (shown : ∀ v ∈ items, ∀ c ∈ write v, Shown c) :
    ∀ c ∈ writeItems items, Shown c := by
  induction items with
  | nil => simp [writeItems]
  | cons v items ih =>
    obtain ⟨first, others⟩ := List.forall_mem_cons.mp shown
    by_cases more : items = []
    · subst more
      exact first
    · rw [writeItems_cons v more, List.forall_mem_append, List.forall_mem_cons]
      exact ⟨first, by decide, ih others⟩

theorem shown_writeMembers (shown : ∀ m ∈ ms, ∀ c ∈ write m.2, Shown c) :
    ∀ c ∈ writeMembers ms, Shown c := by
  induction ms with
  | nil => simp [writeMembers]
  | cons m ms ih =>
    obtain ⟨first, others⟩ := List.forall_mem_cons.mp shown
    by_cases more : ms = []
    · rw [more, writeMembers, List.forall_mem_append, List.forall_mem_cons]
      exact ⟨shown_writeString m.1, by decide, first⟩
    · rw [writeMembers_cons m more, List.forall_mem_append, List.forall_mem_cons,
        List.forall_mem_append, List.forall_mem_cons]
      exact ⟨shown_writeString m.1, by decide, first, by decide, ih others⟩

theorem Legible.shown (legible : Legible depth v) : ∀ c ∈ write v, Shown c := by
  induction legible with
  | null => simp [write, Shown]
  | bool b => cases b <;> simp [write, Shown]
  | int => exact shown_intDigits _
  | str s => exact shown_writeString _
  | list _ shown =>
    simp only [write, List.cons_append, List.forall_mem_cons, List.forall_mem_append]
    exact ⟨by decide, shown_writeItems shown, by decide, List.forall_mem_nil _⟩
  | object _ _ _ shown =>
    simp only [write, List.cons_append, List.forall_mem_cons, List.forall_mem_append]
    exact ⟨by decide, shown_writeMembers shown, by decide, List.forall_mem_nil _⟩

theorem encodeChar_of_shown {c : Char} (shown : Shown c) :
    Utf8.encodeChar c = [UInt8.ofNat c.toNat] := by
  have low : c.toNat < 0x80 := Nat.lt_trans shown.2 (by decide)
  rw [Utf8.encodeChar, if_pos low]

theorem toNat_ofNat_of_shown {c : Char} (shown : Shown c) :
    (UInt8.ofNat c.toNat).toNat = c.toNat := by
  rw [UInt8.toNat_ofNat', Nat.mod_eq_of_lt (Nat.lt_trans shown.2 (by decide))]

theorem decodePassing?_encode {cs : List Char} (shown : ∀ c ∈ cs, Shown c) :
    Utf8.decodePassing? (Utf8.encode cs) = some (cs.map .char) := by
  induction cs with
  | nil => rfl
  | cons c cs ih =>
    obtain ⟨first, others⟩ := List.forall_mem_cons.mp shown
    have low : c.toNat < 0x80 := Nat.lt_trans first.2 (by decide)
    have later : Utf8.decodeFrom CodePoint.ofNat true .between (cs.flatMap Utf8.encodeChar) =
        some (cs.map .char) := ih others
    rw [Utf8.encode, List.flatMap_cons, encodeChar_of_shown first, List.singleton_append,
      Utf8.decodePassing?, Utf8.decodeFrom]
    simp [Utf8.step, Utf8.lead, toNat_ofNat_of_shown first, low, later, CodePoint.ofNat_toNat]

/-- An object starts with a brace, which is no mark, and none of its octets is zero. -/
theorem points?_of_brace {bytes : Bytes} (nonzero : ∀ b ∈ bytes, b ≠ 0) :
    points? (0x7b :: bytes) = Utf8.decodePassing? (0x7b :: bytes) := by
  rcases bytes with _ | ⟨b, _ | ⟨c, _ | ⟨d, rest⟩⟩⟩
  · rfl
  · exact if_neg (nonzero b List.mem_cons_self)
  · rfl
  · exact if_neg (nonzero b List.mem_cons_self)

theorem ne_zero_of_mem_encode {cs : List Char} (shown : ∀ c ∈ cs, Shown c) :
    ∀ b ∈ Utf8.encode cs, b ≠ 0 := by
  rintro b member rfl
  obtain ⟨c, there, inside⟩ := List.mem_flatMap.mp member
  rw [encodeChar_of_shown (shown c there), List.mem_singleton] at inside
  have least := (shown c there).1
  rw [← toNat_ofNat_of_shown (shown c there), ← inside] at least
  exact absurd least (by decide)

theorem readBytes_write (legible : Legible plain.depth (.object ms)) :
    readBytes plain (Utf8.encode (write (.object ms))) = .ok (.object ms) := by
  have begins : write (.object ms) = '\x7b' :: (writeMembers ms ++ ['\x7d']) := rfl
  have shown := legible.shown
  rw [begins, List.forall_mem_cons] at shown
  have told : points? (Utf8.encode (write (.object ms))) =
      some ((write (.object ms)).map .char) := by
    rw [← decodePassing?_encode legible.shown, begins]
    exact points?_of_brace (ne_zero_of_mem_encode shown.2)
  rw [readBytes, told]
  exact read_write legible

end TokenGate.Json
