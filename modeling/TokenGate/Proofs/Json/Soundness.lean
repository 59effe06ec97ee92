import Mathlib.Data.List.DropRight
import Mathlib.Tactic.SplitIfs
import TokenGate.Proofs.Json.Grammar
import TokenGate.Proofs.Json.ReadBack

/-! Whatever is read was JSON: the characters that a reader takes off spell the value that it gives,
if it refuses escaped halves that stand alone.
-/

set_option autoImplicit false

namespace TokenGate.Json

variable {dialect : Dialect} {depth fuel : Nat} {cs rest : List CodePoint} {v : Value}

/-! Texts -/

theorem lowHalf?_eq_some_iff {n : Nat} : lowHalf? cs = some n ↔
    ∃ a b c d tail, cs = .char '\\' :: .char 'u' :: a :: b :: c :: d :: tail ∧
      unit? a b c d = some n ∧ isLow n = true := by
  constructor
  · intro half
    unfold lowHalf? at half
    split at half
    · next a b c d tail =>
      obtain ⟨unit, low⟩ := Option.filter_eq_some_iff.mp half
      exact ⟨a, b, c, d, tail, rfl, unit, low⟩
    · cases half
  · rintro ⟨a, b, c, d, tail, rfl, unit, low⟩
    simp [lowHalf?, unit, low]

theorem map_eq_ok_iff {ε α β : Type} {e : Except ε α} {f : α → β} {b : β} :
    e.map f = .ok b ↔ ∃ a, e = .ok a ∧ f a = b := by
  cases e <;> simp [Except.map]

def QuotedBefore (cs : List CodePoint) (r : List CodePoint × List CodePoint) : Prop :=
  ∃ text, cs = text ++ .char '"' :: r.2 ∧ Quoted text r.1

theorem quoted_cons {p : CodePoint} {r : List CodePoint × List CodePoint}
    (later : ∀ r, stringFrom dialect none rest = .ok r → QuotedBefore rest r)
    (read : (stringFrom dialect none rest).map (fun r => (p :: r.1, r.2)) = .ok r) :
    ∃ text ps, rest = text ++ .char '"' :: r.2 ∧ Quoted text ps ∧ r.1 = p :: ps := by
  obtain ⟨r, inner, rfl⟩ := map_eq_ok_iff.mp read
  obtain ⟨text, begins, quoted⟩ := later r inner
  exact ⟨text, r.1, begins, quoted, rfl⟩

theorem stringFrom_sound (strict : dialect.loneHalves = false) {r : List CodePoint × List CodePoint}
    (read : stringFrom dialect none cs = .ok r) : QuotedBefore cs r := by
  -- A pair takes two escapes at once, so the induction is on how many characters there are.
  induction size : cs.length using Nat.strongRecOn generalizing cs r with
  | ind n ih =>
    subst size
    have later : ∀ rest : List CodePoint, rest.length < cs.length →
        ∀ r, stringFrom dialect none rest = .ok r → QuotedBefore rest r :=
      fun rest shorter r read => ih rest.length shorter read rfl
    clear ih
    obtain ⟨s, following⟩ := r
    unfold stringFrom at read
    split at read
    · cases read
    · cases read
      exact ⟨[], rfl, .done⟩
    · next a b c d rest =>
      split at read
      · cases read
      · next n unit =>
        simp only at read
        split_ifs at read with pair lone
        · obtain ⟨high, follows⟩ := Bool.and_eq_true_iff.mp pair
          obtain ⟨low, half⟩ := Option.isSome_iff_exists.mp follows
          obtain ⟨e, f, g, h, tail, rfl, unitToo, second⟩ := lowHalf?_eq_some_iff.mp half
          rw [stringFrom, unitToo] at read
          obtain ⟨text, cs, rfl, quoted, rfl⟩ :=
            quoted_cons (later tail (by simp only [List.length_cons]; omega)) read
          exact ⟨_, rfl, .pair unit high unitToo second quoted⟩
        · rw [strict, Bool.not_false, Bool.true_and, Bool.or_eq_true, not_or, Bool.not_eq_true,
            Bool.not_eq_true] at lone
          obtain ⟨text, ps, rfl, quoted, rfl⟩ :=
            quoted_cons (later rest (by simp only [List.length_cons]; omega)) read
          exact ⟨_, rfl, .unit unit lone.1 lone.2 quoted⟩
    · next e rest _ =>
      split at read
      · cases read
      · next c short =>
        obtain ⟨text, cs, rfl, quoted, rfl⟩ :=
          quoted_cons (later rest (by simp only [List.length_cons]; omega)) read
        exact ⟨_, rfl, .short short quoted⟩
    · next c rest quote _ backslash =>
      split_ifs at read with control
      obtain ⟨text, cs, rfl, quoted, rfl⟩ := quoted_cons (later rest (by simp)) read
      refine ⟨c :: text, rfl, .plain quote ?_ (Nat.not_lt.mp control) quoted⟩
      -- A backslash has something behind it, the closing quote if nothing else.
      rintro rfl
      obtain ⟨e, tail, begins⟩ : ∃ e tail, text ++ .char '"' :: following = e :: tail :=
        List.exists_cons_of_ne_nil (by simp)
      exact backslash e tail rfl begins

/-! Numbers -/

theorem digits_sound {α : Type} {c : CodePoint} {a : α} (make : List CodePoint → α)
    (read : (if isDecimal c = true then
      some (make (decimalDigits (c :: cs)).1, (decimalDigits (c :: cs)).2) else none) =
        some (a, rest)) :
    ∃ ds, c :: cs = ds ++ rest ∧ Digits ds ∧ ds.head? = some c ∧ a = make ds := by
  split_ifs at read with first
  cases read
  have cut : decimalDigits (c :: cs) = (c :: cs).span isDecimal := rfl
  have digits : ∀ d ∈ (c :: cs).takeWhile isDecimal, isDecimal d = true :=
    List.all_eq_true.mp List.all_takeWhile
  rw [cut, List.span_eq_takeWhile_dropWhile]
  refine ⟨_, List.takeWhile_append_dropWhile.symm, ⟨?_, digits⟩, ?_, rfl⟩ <;> simp [first]

theorem integerPart_sound {whole : List CodePoint} (read : integerPart cs = some (whole, rest)) :
    cs = whole ++ rest ∧ Whole whole := by
  unfold integerPart at read
  split at read
  · cases read
    exact ⟨rfl, ⟨by simp, by simp [isDecimal]⟩, fun _ => rfl⟩
  · next c tail other =>
    obtain ⟨_, begins, digits, head, rfl⟩ := digits_sound id read
    refine ⟨begins, digits, fun zero => ?_⟩
    rw [head] at zero
    exact absurd (Option.some.inj zero) other
  · cases read

/-- There is a fraction, or nothing is taken for one. -/
theorem fractionPart_sound (cs : List CodePoint) :
    ∃ text, cs = text ++ ((fractionPart cs).map (·.2)).getD cs ∧
      Fraction text (((fractionPart cs).map (·.1)).getD []) ∧
      (fractionPart cs ≠ none → text ≠ []) := by
  cases read : fractionPart cs with
  | none => exact ⟨[], rfl, .absent, fun some => absurd rfl some⟩
  | some r =>
    obtain ⟨ds, rest⟩ := r
    unfold fractionPart at read
    split at read
    · obtain ⟨_, begins, digits, -, rfl⟩ := digits_sound id read
      exact ⟨.char '.' :: ds, congrArg _ begins, .present digits, fun _ => List.cons_ne_nil _ _⟩
    · cases read

theorem signedDigits_sound {power : Int} (read : signedDigits cs = some (power, rest)) :
    ∃ text, cs = text ++ rest ∧ Signed text power := by
  unfold signedDigits at read
  split at read
  · obtain ⟨ds, begins, digits, -, rfl⟩ := digits_sound (fun ds => -(natOfDigits ds : Int)) read
    exact ⟨.char '-' :: ds, congrArg _ begins, .minus digits⟩
  · obtain ⟨ds, begins, digits, -, rfl⟩ := digits_sound (fun ds => (natOfDigits ds : Int)) read
    exact ⟨.char '+' :: ds, congrArg _ begins, .plus digits⟩
  · obtain ⟨ds, begins, digits, -, rfl⟩ := digits_sound (fun ds => (natOfDigits ds : Int)) read
    exact ⟨ds, begins, .bare digits⟩
  · cases read

theorem exponentPart_sound (cs : List CodePoint) :
    ∃ text, cs = text ++ ((exponentPart cs).map (·.2)).getD cs ∧
      Exponent text (((exponentPart cs).map (·.1)).getD 0) ∧
      (exponentPart cs ≠ none → text ≠ []) := by
  cases read : exponentPart cs with
  | none => exact ⟨[], rfl, .absent, fun some => absurd rfl some⟩
  | some r =>
    obtain ⟨mark, tail, rfl, marked, read⟩ : ∃ mark tail, cs = mark :: tail ∧
        (mark = .char 'e' ∨ mark = .char 'E') ∧ signedDigits tail = some r := by
      unfold exponentPart at read
      split at read
      · exact ⟨_, _, rfl, .inl rfl, read⟩
      · exact ⟨_, _, rfl, .inr rfl, read⟩
      · cases read
    obtain ⟨text, rfl, signed⟩ := signedDigits_sound read
    exact ⟨mark :: text, rfl, .present marked signed, fun _ => List.cons_ne_nil _ _⟩

theorem magnitude_sound {negative : Bool} (read : magnitude dialect negative cs = .ok (v, rest)) :
    ∃ text, cs = text ++ rest ∧ Magnitude dialect negative text v := by
  unfold magnitude at read
  split at read
  · cases read
  · next whole tail integer =>
    obtain ⟨rfl, wholly⟩ := integerPart_sound integer
    dsimp only at read
    by_cases long : (dialect.boundsWhole &&
        decide (Text.greatestSize < whole.length + if negative then 1 else 0)) = true
    · rw [if_pos long] at read
      cases read
    rw [if_neg long] at read
    have bounded : Bounded dialect negative whole := by
      intro bounds
      cases negative <;> simpa [bounds, sign] using long
    obtain ⟨fraction, cut, fractional, begun⟩ := fractionPart_sound tail
    obtain ⟨exponent, cutToo, exponential, begunToo⟩ :=
      exponentPart_sound (((fractionPart tail).map (·.2)).getD tail)
    rw [cutToo] at cut
    -- From here on only what was shown of the two parts counts, not how they were read.
    generalize exponentPart (((fractionPart tail).map (·.2)).getD tail) = e at *
    generalize fractionPart tail = f at *
    split at read
    · by_cases size : Text.greatestSize < whole.length
      · rw [if_pos size] at read
        cases read
      · rw [if_neg size] at read
        cases read
        exact ⟨whole, rfl, .int wholly bounded (Nat.not_lt.mp size)⟩
    · next other =>
      cases read
      refine ⟨whole ++ (fraction ++ exponent), ?_, .float wholly bounded fractional exponential ?_⟩
      · rw [List.append_assoc, List.append_assoc, ← cut]
      · intro nothing
        obtain ⟨rfl, rfl⟩ := List.append_eq_nil_iff.mp nothing
        exact other (not_not.mp fun some => begun some rfl)
          (not_not.mp fun some => begunToo some rfl)

theorem scalar_sound (read : scalar dialect cs = .ok (v, rest)) :
    ∃ text, cs = text ++ rest ∧ Single dialect text v := by
  unfold scalar at read
  split at read
  · cases read
    exact ⟨_, rfl, .null⟩
  · cases read
    exact ⟨_, rfl, .yes⟩
  · cases read
    exact ⟨_, rfl, .no⟩
  · cases read
    exact ⟨_, rfl, .nan⟩
  · cases read
    exact ⟨_, rfl, .infinite false⟩
  · cases read
    exact ⟨_, rfl, .infinite true⟩
  · obtain ⟨text, rfl, number⟩ := magnitude_sound read
    exact ⟨sign true ++ text, rfl, .number number⟩
  · obtain ⟨text, rfl, number⟩ := magnitude_sound read
    have spelled : Single dialect (sign false ++ text) v := .number number
    exact ⟨text, rfl, spelled⟩

/-! Lists and objects -/

def Sound (reader : List CodePoint → Except Error (Value × List CodePoint))
    (spells : List CodePoint → Value → Prop) : Prop :=
  ∀ cs v rest, reader cs = .ok (v, rest) → ∃ text, cs = text ++ rest ∧ spells text v

theorem bind_eq_ok_iff {ε α β : Type} {e : Except ε α} {f : α → Except ε β} {b : β} :
    e >>= f = .ok b ↔ ∃ a, e = .ok a ∧ f a = .ok b := by
  cases e <;> simp [bind, Except.bind]

theorem skipSpace_cut (cs : List CodePoint) :
    ∃ before, Blank before ∧ cs = before ++ skipSpace cs :=
  ⟨_, List.all_eq_true.mp List.all_takeWhile, List.takeWhile_append_dropWhile.symm⟩

variable {reader : List CodePoint → Except Error (Value × List CodePoint)}
  {spells : List CodePoint → Value → Prop}

theorem Sound.padded (sound : Sound reader spells) (read : reader (skipSpace cs) = .ok (v, rest)) :
    ∃ text, cs = text ++ skipSpace rest ∧ Padded spells text v := by
  obtain ⟨before, blank, begins⟩ := skipSpace_cut cs
  obtain ⟨text, cut, spelled⟩ := sound _ _ _ read
  obtain ⟨after, blankToo, ends⟩ := skipSpace_cut rest
  refine ⟨before ++ (text ++ after), ?_, .pad blank spelled blankToo⟩
  rw [begins, cut, List.append_assoc, List.append_assoc, ← ends]

theorem itemsFrom_sound (sound : Sound reader spells) {items : List Value}
    (read : itemsFrom reader fuel cs = .ok (items, rest)) :
    ∃ text, cs = text ++ .char ']' :: rest ∧ Listed (Padded spells) text items := by
  -- Every item takes one of the fuel.
  induction fuel generalizing cs items with
  | zero => cases read
  | succ fuel ih =>
    rw [itemsFrom] at read
    obtain ⟨⟨v, tail⟩, first, onward⟩ := bind_eq_ok_iff.mp read
    obtain ⟨text, begins, padded⟩ := sound.padded first
    rw [begins]
    dsimp only at onward
    split at onward
    · next tail ended =>
      cases onward
      exact ⟨text, by rw [ended], .last padded⟩
    · next tail ended =>
      obtain ⟨⟨others, after⟩, later, same⟩ := bind_eq_ok_iff.mp onward
      cases same
      obtain ⟨more, rfl, listed⟩ := ih later
      exact ⟨text ++ .char ',' :: more, by simp [ended], .next padded listed⟩
    · cases onward

theorem Sound.entry (strict : dialect.loneHalves = false) (sound : Sound reader spells)
    {name quoted unnamed valued tail : List CodePoint} (opened : skipSpace cs = .char '"' :: quoted)
    (named : stringFrom dialect none quoted = .ok (name, unnamed))
    (colon : skipSpace unnamed = .char ':' :: valued)
    (read : reader (skipSpace valued) = .ok (v, tail)) :
    ∃ text, cs = text ++ skipSpace tail ∧ Entry spells text (Text.ofPoints name, v) := by
  obtain ⟨before, blank, begins⟩ := skipSpace_cut cs
  obtain ⟨text, cut, spelled⟩ := stringFrom_sound strict named
  obtain ⟨between, blankToo, follows⟩ := skipSpace_cut unnamed
  obtain ⟨value, cutToo, padded⟩ := sound.padded read
  dsimp only at cut
  rw [opened, cut, follows, colon, cutToo] at begins
  exact ⟨_, by simp [begins], .entry blank spelled blankToo padded⟩

theorem membersFrom_sound (strict : dialect.loneHalves = false) (sound : Sound reader spells)
    {pairs : List (Text × Value)}
    (read : membersFrom dialect reader fuel cs = .ok (pairs, rest)) :
    ∃ text, cs = text ++ .char '\x7d' :: rest ∧ Listed (Entry spells) text pairs := by
  -- Every member takes one of the fuel.
  induction fuel generalizing cs pairs with
  | zero => cases read
  | succ fuel ih =>
    rw [membersFrom] at read
    split at read
    · next quoted opened =>
      obtain ⟨⟨name, unnamed⟩, named, onward⟩ := bind_eq_ok_iff.mp read
      dsimp only at onward
      split at onward
      · next valued colon =>
        obtain ⟨⟨v, tail⟩, first, further⟩ := bind_eq_ok_iff.mp onward
        obtain ⟨text, begins, entry⟩ := sound.entry strict opened named colon first
        rw [begins]
        dsimp only at further
        split at further
        · next tail ended =>
          cases further
          exact ⟨text, by rw [ended], .last entry⟩
        · next tail ended =>
          obtain ⟨⟨others, after⟩, later, same⟩ := bind_eq_ok_iff.mp further
          cases same
          obtain ⟨more, rfl, listed⟩ := ih later
          exact ⟨text ++ .char ',' :: more, by simp [ended], .next entry listed⟩
        · cases further
      · cases onward
    · cases read

theorem skipSpace_skipSpace (cs : List CodePoint) : skipSpace (skipSpace cs) = skipSpace cs :=
  List.dropWhile_idempotent isSpace cs

theorem itemsFrom_skipSpace : itemsFrom reader fuel (skipSpace cs) = itemsFrom reader fuel cs := by
  cases fuel with
  | zero => rfl
  | succ fuel => rw [itemsFrom, itemsFrom, skipSpace_skipSpace]

theorem membersFrom_skipSpace :
    membersFrom dialect reader fuel (skipSpace cs) = membersFrom dialect reader fuel cs := by
  cases fuel with
  | zero => rfl
  | succ fuel => rw [membersFrom, membersFrom, skipSpace_skipSpace]

theorem exists_blank {c : CodePoint} (skipped : skipSpace cs = c :: rest) :
    ∃ text, cs = text ++ c :: rest ∧ Blank text := by
  obtain ⟨before, blank, begins⟩ := skipSpace_cut cs
  exact ⟨before, by rw [← skipped, ← begins], blank⟩

theorem pairsFrom_sound (strict : dialect.loneHalves = false) (sound : Sound reader spells)
    {pairs : List (Text × Value)} (read : pairsFrom dialect reader cs = .ok (pairs, rest)) :
    ∃ text, cs = text ++ .char '\x7d' :: rest ∧ Sequence (Entry spells) text pairs := by
  unfold pairsFrom at read
  split at read
  · next closed =>
    cases read
    obtain ⟨text, cut, blank⟩ := exists_blank closed
    exact ⟨text, cut, .empty blank⟩
  · rw [membersFrom_skipSpace] at read
    obtain ⟨text, cut, listed⟩ := membersFrom_sound strict sound read
    exact ⟨text, cut, .filled listed⟩

/-! Values -/

theorem valueFrom_text :
    valueFrom dialect depth (.char '"' :: rest) =
      (stringFrom dialect none rest).map fun r => (.str (Text.ofPoints r.1), r.2) := by
  cases depth <;> rfl

def Opens (cs : List CodePoint) : Prop :=
  ∃ tail, cs = .char '[' :: tail ∨ cs = .char '\x7b' :: tail

theorem single_sound (strict : dialect.loneHalves = false) (single : ¬ Opens cs)
    (read : valueFrom dialect depth cs = .ok (v, rest)) :
    ∃ text, cs = text ++ rest ∧ Single dialect text v := by
  rcases cs with _ | ⟨c, cs⟩
  · have nothing : valueFrom dialect depth [] = scalar dialect [] := by cases depth <;> rfl
    exact scalar_sound (nothing ▸ read)
  · by_cases text : c = .char '"'
    · subst text
      rw [valueFrom_text] at read
      obtain ⟨⟨characters, after⟩, quoted, same⟩ := map_eq_ok_iff.mp read
      cases same
      obtain ⟨text, rfl, spelled⟩ := stringFrom_sound strict quoted
      exact ⟨_, by simp, .text spelled⟩
    · have list : c ≠ .char '[' := fun same => single ⟨cs, .inl (by rw [same])⟩
      have object : c ≠ .char '\x7b' := fun same => single ⟨cs, .inr (by rw [same])⟩
      rw [valueFrom_scalar text list object] at read
      exact scalar_sound read

/-- In the deepest list or object there are empty ones at most. -/
theorem deepest_sound (opens : Opens cs) (read : valueFrom dialect 0 cs = .ok (v, rest)) :
    ∃ text, cs = text ++ rest ∧ dialect.emptyBelow = true ∧ Compound Nothing text v := by
  obtain ⟨tail, rfl | rfl⟩ := opens <;> rw [valueFrom] at read <;> split at read
  · next allowed closed =>
    cases read
    obtain ⟨text, rfl, blank⟩ := exists_blank closed
    exact ⟨_, by simp, allowed, .list (.empty blank)⟩
  · cases read
  · next allowed closed =>
    cases read
    obtain ⟨text, rfl, blank⟩ := exists_blank closed
    exact ⟨_, by simp, allowed, .object (.braces (.empty blank))⟩
  · cases read

theorem compound_sound (strict : dialect.loneHalves = false)
    (sound : Sound (valueFrom dialect depth) spells) (opens : Opens cs)
    (read : valueFrom dialect (depth + 1) cs = .ok (v, rest)) :
    ∃ text, cs = text ++ rest ∧ Compound spells text v := by
  obtain ⟨tail, rfl | rfl⟩ := opens
  · rw [valueFrom] at read
    split at read
    · next closed =>
      cases read
      obtain ⟨text, rfl, blank⟩ := exists_blank closed
      exact ⟨_, by simp, .list (.empty blank)⟩
    · obtain ⟨⟨items, after⟩, inside, same⟩ := map_eq_ok_iff.mp read
      cases same
      rw [itemsFrom_skipSpace] at inside
      obtain ⟨text, rfl, listed⟩ := itemsFrom_sound sound inside
      exact ⟨_, by simp, .list (.filled listed)⟩
  · rw [valueFrom] at read
    obtain ⟨⟨pairs, after⟩, inside, same⟩ := map_eq_ok_iff.mp read
    cases same
    obtain ⟨text, rfl, sequence⟩ := pairsFrom_sound strict sound inside
    exact ⟨_, by simp, .object (.braces sequence)⟩

theorem valueFrom_sound (strict : dialect.loneHalves = false) :
    Sound (valueFrom dialect depth) (Spells dialect depth) := by
  induction depth with
  | zero =>
    intro cs v rest read
    by_cases opens : Opens cs
    · obtain ⟨text, cut, compound⟩ := deepest_sound opens read
      exact ⟨text, cut, .inr compound⟩
    · obtain ⟨text, cut, single⟩ := single_sound strict opens read
      exact ⟨text, cut, .inl single⟩
  | succ depth ih =>
    intro cs v rest read
    by_cases opens : Opens cs
    · obtain ⟨text, cut, compound⟩ := compound_sound strict ih opens read
      exact ⟨text, cut, .inr compound⟩
    · obtain ⟨text, cut, single⟩ := single_sound strict opens read
      exact ⟨text, cut, .inl single⟩

theorem read_sound (strict : dialect.loneHalves = false) (read : read dialect cs = .ok v) :
    Padded (Spells dialect dialect.depth) cs v := by
  obtain ⟨⟨v, rest⟩, inside, onward⟩ := bind_eq_ok_iff.mp read
  dsimp only at onward
  split_ifs at onward with ended
  cases onward
  obtain ⟨text, rfl, padded⟩ := (valueFrom_sound strict).padded inside
  rwa [List.isEmpty_iff.mp ended, List.append_nil]

end TokenGate.Json
