import TokenGate.Proofs.Json.Soundness

/-! Whatever is JSON is read: a reader takes off the text of a value and gives the value, if what
follows does not go on with a number. So a reader reads what is JSON, and nothing else.
-/

set_option autoImplicit false

namespace TokenGate.Json

variable {dialect : Dialect} {depth fuel : Nat} {text cs rest : List CodePoint} {v : Value}

/-! Texts -/

theorem stringFrom_complete (quoted : Quoted text cs) :
    stringFrom dialect none (text ++ .char '"' :: rest) = .ok (cs, rest) := by
  induction quoted with
  | done => rfl
  | plain quote backslash shown _ ih =>
    rw [List.cons_append, stringFrom_plain quote backslash shown, ih]
    rfl
  | short short _ ih =>
    rw [List.cons_append, List.cons_append, stringFrom_short short, ih]
    rfl
  | unit unit high low _ ih => simp [stringFrom, unit, high, low, ih, Except.map]
  | pair unit high unitToo low _ ih =>
    simp [stringFrom, lowHalf?, unit, high, unitToo, low, ih, Except.map]

/-! Numbers -/

def Stops (rest : List CodePoint) : Prop :=
  ∀ c, rest.head? = some c → isDecimal c = false ∧ c ≠ .char '.' ∧ c ≠ .char 'e' ∧ c ≠ .char 'E'

theorem Stops.not_decimal (stops : Stops rest) : ∀ c, rest.head? = some c → isDecimal c = false :=
  fun c next => (stops c next).1

theorem Digits.cons {ds : List CodePoint} (digits : Digits ds) :
    ∃ c tail, ds = c :: tail ∧ isDecimal c = true := by
  obtain ⟨c, tail, rfl⟩ := List.exists_cons_of_ne_nil digits.1
  exact ⟨c, tail, rfl, digits.2 c List.mem_cons_self⟩

theorem Digits.taken {ds : List CodePoint} (digits : Digits ds)
    (other : ∀ c, rest.head? = some c → isDecimal c = false) :
    ∃ c tail, ds = c :: tail ∧ isDecimal c = true ∧
      decimalDigits (c :: (tail ++ rest)) = (c :: tail, rest) := by
  have taken := decimalDigits_append digits.2 other
  obtain ⟨c, tail, rfl, first⟩ := digits.cons
  exact ⟨c, tail, rfl, first, taken⟩

theorem integerPart_complete {whole : List CodePoint} (wholly : Whole whole)
    (other : ∀ c, rest.head? = some c → isDecimal c = false) :
    integerPart (whole ++ rest) = some (whole, rest) := by
  obtain ⟨digits, alone⟩ := wholly
  by_cases zero : whole.head? = some (.char '0')
  · rw [alone zero]
    rfl
  · obtain ⟨c, tail, rfl, first, taken⟩ := digits.taken other
    rw [List.cons_append, integerPart, if_pos first, taken]
    rintro rfl
    exact zero rfl

theorem fractionPart_complete {ds : List CodePoint} (digits : Digits ds)
    (other : ∀ c, rest.head? = some c → isDecimal c = false) :
    fractionPart (.char '.' :: (ds ++ rest)) = some (ds, rest) := by
  obtain ⟨c, tail, rfl, first, taken⟩ := digits.taken other
  rw [List.cons_append, fractionPart, if_pos first, taken]

theorem fractionPart_of_other (other : rest.head? ≠ some (.char '.')) :
    fractionPart rest = none := by
  unfold fractionPart
  split
  · exact absurd rfl other
  · rfl

theorem signedDigits_complete {power : Int} (signed : Signed text power)
    (other : ∀ c, rest.head? = some c → isDecimal c = false) :
    signedDigits (text ++ rest) = some (power, rest) := by
  cases signed with
  | bare digits =>
    obtain ⟨c, tail, rfl, first, taken⟩ := digits.taken other
    rw [List.cons_append, signedDigits, if_pos first, taken]
    all_goals
      rintro _ _ rfl
      cases first
  | plus digits =>
    obtain ⟨c, tail, rfl, first, taken⟩ := digits.taken other
    rw [List.cons_append, List.cons_append, signedDigits, if_pos first, taken]
  | minus digits =>
    obtain ⟨c, tail, rfl, first, taken⟩ := digits.taken other
    rw [List.cons_append, List.cons_append, signedDigits, if_pos first, taken]

theorem exponentPart_complete {mark : CodePoint} {power : Int}
    (marked : mark = .char 'e' ∨ mark = .char 'E')
    (signed : Signed text power) (other : ∀ c, rest.head? = some c → isDecimal c = false) :
    exponentPart (mark :: (text ++ rest)) = some (power, rest) := by
  obtain rfl | rfl := marked <;> exact signedDigits_complete signed other

theorem exponentPart_of_stops (stops : Stops rest) : exponentPart rest = none := by
  unfold exponentPart
  split
  · exact absurd rfl (stops (.char 'e') rfl).2.2.1
  · exact absurd rfl (stops (.char 'E') rfl).2.2.2
  · rfl

theorem Fraction.other {text ds : List CodePoint} (fraction : Fraction text ds)
    (other : ∀ c, rest.head? = some c → isDecimal c = false) :
    ∀ c, (text ++ rest).head? = some c → isDecimal c = false := by
  cases fraction with
  | absent => exact other
  | present digits =>
    rintro c ⟨⟩
    rfl

theorem Exponent.other {power : Int} (exponent : Exponent text power) (stops : Stops rest) :
    ∀ c, (text ++ rest).head? = some c → isDecimal c = false ∧ c ≠ .char '.' := by
  cases exponent with
  | absent => exact fun c next => ⟨(stops c next).1, (stops c next).2.1⟩
  | present marked signed =>
    rintro c ⟨⟩
    obtain rfl | rfl := marked <;> exact ⟨rfl, by decide⟩

theorem Bounded.fits {negative : Bool} {whole : List CodePoint}
    (bounded : Bounded dialect negative whole) :
    (dialect.boundsWhole &&
      decide (Text.greatestSize < whole.length + if negative then 1 else 0)) = false := by
  rw [Bool.and_eq_false_imp]
  intro bounds
  have size := bounded bounds
  cases negative <;> simpa [sign] using size

theorem magnitude_complete {negative : Bool} (number : Magnitude dialect negative text v)
    (stops : Stops rest) : magnitude dialect negative (text ++ rest) = .ok (v, rest) := by
  have noFraction : fractionPart rest = none :=
    fractionPart_of_other fun point => (stops (.char '.') point).2.1 rfl
  have noExponent := exponentPart_of_stops stops
  -- What follows goes on with no digit, point or exponent, so all of the number is taken.
  cases number with
  | int wholly bounded size =>
    simp [magnitude, integerPart_complete wholly stops.not_decimal, bounded.fits, noFraction,
      noExponent, Nat.not_lt.mpr size]
  | float wholly bounded fraction exponent some =>
    have behind := exponent.other stops
    have digitless := fun c next => (behind c next).1
    have integer := integerPart_complete wholly (fraction.other digitless)
    rw [List.append_assoc, List.append_assoc, magnitude, integer]
    dsimp only
    rw [bounded.fits, if_neg Bool.false_ne_true]
    cases fraction with
    | absent =>
      cases exponent with
      | absent => exact absurd rfl some
      | present marked signed =>
        have pointless := fractionPart_of_other fun point => (behind (.char '.') point).2 rfl
        rw [List.nil_append, pointless]
        simp [exponentPart_complete marked signed stops.not_decimal]
    | present digits =>
      rw [List.cons_append, fractionPart_complete digits digitless]
      cases exponent with
      | absent => simp [noExponent]
      | present marked signed => simp [exponentPart_complete marked signed stops.not_decimal]

theorem Magnitude.begins {negative : Bool} (number : Magnitude dialect negative text v) :
    ∃ c tail, text = c :: tail ∧ isDecimal c = true := by
  cases number with
  | int wholly => exact wholly.1.cons
  | float wholly =>
    obtain ⟨c, tail, rfl, first⟩ := wholly.1.cons
    exact ⟨c, _, rfl, first⟩

theorem valueFrom_number {negative : Bool} (number : Magnitude dialect negative text v)
    (stops : Stops rest) :
    valueFrom dialect depth (sign negative ++ text ++ rest) = .ok (v, rest) := by
  have read := magnitude_complete number stops
  obtain ⟨c, tail, rfl, first⟩ := number.begins
  cases negative with
  | true =>
    exact (valueFrom_scalar (by decide) (by decide) (by decide)).trans
      ((scalar_minus first).trans read)
  | false =>
    exact (valueFrom_scalar (ne_of_isDecimal first rfl) (ne_of_isDecimal first rfl)
      (ne_of_isDecimal first rfl)).trans ((scalar_digit first).trans read)

theorem single_complete (single : Single dialect text v) (stops : Stops rest) :
    valueFrom dialect depth (text ++ rest) = .ok (v, rest) := by
  have scalar := fun (c : CodePoint) (cs : List CodePoint) => @valueFrom_scalar dialect depth cs c
  cases single with
  | null => exact scalar _ _ (by decide) (by decide) (by decide)
  | yes => exact scalar _ _ (by decide) (by decide) (by decide)
  | no => exact scalar _ _ (by decide) (by decide) (by decide)
  | nan => exact scalar _ _ (by decide) (by decide) (by decide)
  | infinite negative =>
    cases negative <;> exact scalar _ _ (by decide) (by decide) (by decide)
  | number number => exact valueFrom_number number stops
  | text quoted =>
    rw [List.cons_append, List.append_assoc, List.singleton_append, valueFrom_text,
      stringFrom_complete quoted]
    rfl

/-! Lists and objects -/

variable {reader : List CodePoint → Except Error (Value × List CodePoint)}
  {spells : List CodePoint → Value → Prop} {items : List Value} {pairs : List (Text × Value)}

/-- A reader takes off what spells a value, if what follows is no part of a number. -/
def Complete (reader : List CodePoint → Except Error (Value × List CodePoint))
    (spells : List CodePoint → Value → Prop) : Prop :=
  ∀ text v rest, spells text v → Stops rest → reader (text ++ rest) = .ok (v, rest)

def Prompt (spells : List CodePoint → Value → Prop) : Prop :=
  ∀ text v, spells text v → Begins text

theorem Begins.append {text : List CodePoint} (begins : Begins text) : Begins (text ++ rest) := by
  obtain ⟨c, tail, rfl, seen⟩ := begins
  exact ⟨c, tail ++ rest, rfl, seen⟩

theorem Blank.skipSpace_append {before : List CodePoint} (blank : Blank before) :
    skipSpace (before ++ rest) = skipSpace rest :=
  List.dropWhile_append_of_pos blank

theorem Blank.stops {after : List CodePoint} (blank : Blank after) (stops : Stops rest) :
    Stops (after ++ rest) := by
  cases after with
  | nil => exact stops
  | cons c after =>
    rintro _ ⟨⟩
    have space := blank c List.mem_cons_self
    simp only [isSpace, Bool.or_eq_true, beq_iff_eq, or_assoc] at space
    obtain rfl | rfl | rfl | rfl := space <;> decide

def Closing (c : CodePoint) : Prop := c = .char ',' ∨ c = .char ']' ∨ c = .char '\x7d'

theorem Closing.stops {c : CodePoint} (closing : Closing c) (rest : List CodePoint) :
    Stops (c :: rest) := by
  rintro _ ⟨⟩
  obtain rfl | rfl | rfl := closing <;> decide

theorem Closing.skipSpace_eq {c : CodePoint} (closing : Closing c) :
    skipSpace (c :: rest) = c :: rest := by
  obtain rfl | rfl | rfl := closing <;> rfl

theorem Complete.padded (complete : Complete reader spells) (prompt : Prompt spells)
    (padded : Padded spells text v) (stops : Stops rest) :
    ∃ tail, reader (skipSpace (text ++ rest)) = .ok (v, tail) ∧
      skipSpace tail = skipSpace rest := by
  cases padded with
  | @pad before text after v blank spelled blankToo =>
    refine ⟨after ++ rest, ?_, blankToo.skipSpace_append⟩
    rw [List.append_assoc, blank.skipSpace_append, List.append_assoc,
      (prompt text v spelled).skipSpace_eq]
    exact complete text v _ spelled (blankToo.stops stops)

theorem itemsFrom_complete (complete : Complete reader spells) (prompt : Prompt spells)
    (listed : Listed (Padded spells) text items) (enough : items.length ≤ fuel) :
    itemsFrom reader fuel (text ++ .char ']' :: rest) = .ok (items, rest) := by
  -- On how the items are listed, which is how they are read: one, and then the others.
  induction listed generalizing fuel with
  | last padded =>
    obtain _ | fuel := fuel
    · cases enough
    have closing : Closing (.char ']') := .inr (.inl rfl)
    obtain ⟨tail, read, skipped⟩ := complete.padded prompt padded (closing.stops rest)
    rw [itemsFrom, read]
    simp [bind, Except.bind, skipped, closing.skipSpace_eq]
  | next padded listed ih =>
    obtain _ | fuel := fuel
    · cases enough
    have closing : Closing (.char ',') := .inl rfl
    rw [List.append_assoc, List.cons_append]
    obtain ⟨tail, read, skipped⟩ := complete.padded prompt padded (closing.stops _)
    rw [itemsFrom, read]
    simp only [bind, Except.bind, skipped, closing.skipSpace_eq,
      ih (Nat.le_of_succ_le_succ enough)]

theorem Complete.entry (dialect : Dialect) (complete : Complete reader spells)
    (prompt : Prompt spells) {m : Text × Value} (entry : Entry spells text m)
    (stops : Stops rest) :
    ∃ name quoted unnamed valued tail, skipSpace (text ++ rest) = .char '"' :: quoted ∧
      stringFrom dialect none quoted = .ok (name, unnamed) ∧
      skipSpace unnamed = .char ':' :: valued ∧
      reader (skipSpace valued) = .ok (m.2, tail) ∧ skipSpace tail = skipSpace rest ∧
      m.1 = Text.ofPoints name := by
  cases entry with
  | @entry before name cs between value v blank quoted blankToo padded =>
    obtain ⟨tail, read, skipped⟩ := complete.padded prompt padded stops
    have begins :
        before ++ .char '"' :: (name ++ .char '"' :: (between ++ .char ':' :: value)) ++ rest =
          before ++ .char '"' :: (name ++ .char '"' ::
            (between ++ .char ':' :: (value ++ rest))) := by
      simp
    refine ⟨cs, _, between ++ .char ':' :: (value ++ rest), value ++ rest, tail, ?_,
      stringFrom_complete quoted, ?_, read, skipped, rfl⟩
    · rw [begins, blank.skipSpace_append]
      rfl
    · rw [blankToo.skipSpace_append]
      rfl

theorem membersFrom_complete (complete : Complete reader spells) (prompt : Prompt spells)
    (listed : Listed (Entry spells) text pairs) (enough : pairs.length ≤ fuel) :
    membersFrom dialect reader fuel (text ++ .char '\x7d' :: rest) = .ok (pairs, rest) := by
  induction listed generalizing fuel with
  | @last text m entry =>
    obtain _ | fuel := fuel
    · cases enough
    have closing : Closing (.char '\x7d') := .inr (.inr rfl)
    obtain ⟨name, quoted, unnamed, valued, tail, opened, named, colon, read, skipped, same⟩ :=
      complete.entry dialect prompt entry (closing.stops rest)
    rw [membersFrom, opened]
    simp only [bind, Except.bind, named, colon, read, skipped, closing.skipSpace_eq, ← same]
  | @next text more m others entry listed ih =>
    obtain _ | fuel := fuel
    · cases enough
    have closing : Closing (.char ',') := .inl rfl
    rw [List.append_assoc, List.cons_append]
    obtain ⟨name, quoted, unnamed, valued, tail, opened, named, colon, read, skipped, same⟩ :=
      complete.entry dialect prompt entry (closing.stops _)
    rw [membersFrom, opened]
    simp only [bind, Except.bind, named, colon, read, skipped, closing.skipSpace_eq, ← same,
      ih (Nat.le_of_succ_le_succ enough)]

/-- There are no more parts than characters, if the last one is followed by one. -/
theorem Listed.length_le {α : Type} {part : List CodePoint → α → Prop} {all : List α}
    (listed : Listed part text all) : all.length ≤ text.length + 1 := by
  induction listed with
  | last => exact Nat.le_add_left 1 _
  | next _ _ ih =>
    simp only [List.length_append, List.length_cons]
    omega

theorem Listed.first {α : Type} {part : List CodePoint → α → Prop} {all : List α}
    (listed : Listed part text all) :
    ∃ head a more, text = head ++ more ∧ part head a ∧
      ∀ other, part other a → Listed part (other ++ more) all := by
  cases listed with
  | @last text a first =>
    refine ⟨text, a, [], (List.append_nil _).symm, first, fun other spelled => ?_⟩
    rw [List.append_nil]
    exact .last spelled
  | @next text more a others first later =>
    exact ⟨text, a, .char ',' :: more, rfl, first, fun other spelled => .next spelled later⟩

/-- Without the blanks in front, values with commas between them start at once. -/
theorem Listed.trim (prompt : Prompt spells) (listed : Listed (Padded spells) text items) :
    ∃ before core, Blank before ∧ text = before ++ core ∧ Begins core ∧
      Listed (Padded spells) core items := by
  obtain ⟨head, a, more, rfl, padded, replace⟩ := listed.first
  cases padded with
  | @pad before core after a blank spelled blankToo =>
    refine ⟨before, core ++ after ++ more, blank, by simp, ?_, ?_⟩
    · exact (prompt core a spelled).append.append
    · have trimmed : Padded spells ([] ++ (core ++ after)) a :=
        .pad (List.forall_mem_nil _) spelled blankToo
      exact replace _ trimmed

theorem Listed.trimEntries (listed : Listed (Entry spells) text pairs) :
    ∃ before core, Blank before ∧ text = before ++ .char '"' :: core ∧
      Listed (Entry spells) (.char '"' :: core) pairs := by
  obtain ⟨head, a, more, rfl, entry, replace⟩ := listed.first
  cases entry with
  | @entry before name cs between value v blank quoted blankToo padded =>
    have trimmed : Entry spells
        ([] ++ .char '"' :: (name ++ .char '"' :: (between ++ .char ':' :: value)))
        (Text.ofPoints cs, v) :=
      .entry (List.forall_mem_nil _) quoted blankToo padded
    exact ⟨before, _, blank, List.append_assoc _ _ _, replace _ trimmed⟩

theorem pairsFrom_complete (complete : Complete reader spells) (prompt : Prompt spells)
    (sequence : Sequence (Entry spells) text pairs) :
    pairsFrom dialect reader (text ++ .char '\x7d' :: rest) = .ok (pairs, rest) := by
  cases sequence with
  | empty blank =>
    rw [pairsFrom, blank.skipSpace_append]
    rfl
  | filled listed =>
    obtain ⟨before, core, blank, rfl, trimmed⟩ := listed.trimEntries
    have skipped : skipSpace (before ++ .char '"' :: core ++ .char '\x7d' :: rest) =
        .char '"' :: core ++ .char '\x7d' :: rest := by
      rw [List.append_assoc, blank.skipSpace_append]
      rfl
    have enough : pairs.length ≤ (CodePoint.char '"' :: core ++ .char '\x7d' :: rest).length := by
      have short := trimmed.length_le
      simp only [List.length_append, List.length_cons] at short ⊢
      omega
    rw [pairsFrom, skipped]
    exact membersFrom_complete complete prompt trimmed enough

theorem itemsFrom_sequence (complete : Complete reader spells) (prompt : Prompt spells)
    (listed : Listed (Padded spells) text items) :
    ∃ core, Begins core ∧ skipSpace (text ++ .char ']' :: rest) = core ++ .char ']' :: rest ∧
      itemsFrom reader (core ++ .char ']' :: rest).length (core ++ .char ']' :: rest) =
        .ok (items, rest) := by
  obtain ⟨before, core, blank, rfl, begins, trimmed⟩ := listed.trim prompt
  refine ⟨core, begins, ?_, itemsFrom_complete complete prompt trimmed ?_⟩
  · rw [List.append_assoc, blank.skipSpace_append, begins.skipSpace_eq]
  · have short := trimmed.length_le
    simp only [List.length_append, List.length_cons]
    omega

/-! Values -/

theorem Single.begins (single : Single dialect text v) : Begins text := by
  cases single with
  | null => exact ⟨.char 'n', _, rfl, by decide, by decide⟩
  | yes => exact ⟨.char 't', _, rfl, by decide, by decide⟩
  | no => exact ⟨.char 'f', _, rfl, by decide, by decide⟩
  | nan => exact ⟨.char 'N', _, rfl, by decide, by decide⟩
  | infinite negative => cases negative <;> exact ⟨_, _, rfl, by decide, by decide⟩
  | @number negative text v number =>
    cases negative with
    | true => exact ⟨.char '-', text, rfl, by decide, by decide⟩
    | false =>
      obtain ⟨c, tail, rfl, digit⟩ := number.begins
      exact ⟨c, tail, rfl, isSpace_of_isDecimal digit, ne_of_isDecimal digit rfl⟩
  | text => exact ⟨.char '"', _, rfl, by decide, by decide⟩

theorem Compound.begins (compound : Compound spells text v) : Begins text := by
  cases compound with
  | list => exact ⟨.char '[', _, rfl, by decide, by decide⟩
  | object braced =>
    cases braced
    exact ⟨.char '\x7b', _, rfl, by decide, by decide⟩

theorem spells_prompt : Prompt (Spells dialect depth) := by
  intro text v spelled
  cases depth with
  | zero =>
    obtain single | ⟨-, compound⟩ := spelled
    · exact single.begins
    · exact compound.begins
  | succ depth =>
    obtain single | compound := spelled
    · exact single.begins
    · exact compound.begins

theorem deepest_complete (allowed : dialect.emptyBelow = true)
    (compound : Compound Nothing text v) :
    valueFrom dialect 0 (text ++ rest) = .ok (v, rest) := by
  -- Nothing has a text in the deepest list or object, so that only empty ones are left.
  cases compound with
  | list sequence =>
    cases sequence with
    | empty blank =>
      rw [List.cons_append, List.append_assoc, List.singleton_append, valueFrom, allowed,
        blank.skipSpace_append]
      rfl
    | filled listed =>
      obtain ⟨_, _, _, _, ⟨_, nothing, _⟩, _⟩ := listed.first
      cases nothing
  | object braced =>
    obtain ⟨sequence⟩ := braced
    cases sequence with
    | empty blank =>
      rw [List.cons_append, List.append_assoc, List.singleton_append, valueFrom, allowed,
        blank.skipSpace_append]
      rfl
    | filled listed =>
      obtain ⟨_, _, _, _, ⟨_, _, _, ⟨_, nothing, _⟩⟩, _⟩ := listed.first
      cases nothing

theorem compound_complete (complete : Complete (valueFrom dialect depth) spells)
    (prompt : Prompt spells) (compound : Compound spells text v) :
    valueFrom dialect (depth + 1) (text ++ rest) = .ok (v, rest) := by
  cases compound with
  | @list text items sequence =>
    rw [List.cons_append, List.append_assoc, List.singleton_append, valueFrom]
    cases sequence with
    | empty blank =>
      rw [blank.skipSpace_append]
      rfl
    | filled listed =>
      obtain ⟨core, begins, skipped, read⟩ := itemsFrom_sequence complete prompt listed
      -- The blanks in front are skipped, so they may be gone before.
      rw [← skipSpace_skipSpace, skipped, ← valueFrom, valueFrom_list begins, read]
      rfl
  | object braced =>
    obtain ⟨sequence⟩ := braced
    rw [List.cons_append, List.append_assoc, List.singleton_append, valueFrom,
      pairsFrom_complete complete prompt sequence]
    rfl

theorem valueFrom_complete : Complete (valueFrom dialect depth) (Spells dialect depth) := by
  induction depth with
  | zero =>
    intro text v rest spelled stops
    obtain single | ⟨allowed, compound⟩ := spelled
    · exact single_complete single stops
    · exact deepest_complete allowed compound
  | succ depth ih =>
    intro text v rest spelled stops
    obtain single | compound := spelled
    · exact single_complete single stops
    · exact compound_complete ih spells_prompt compound

theorem read_complete (spelled : Padded (Spells dialect dialect.depth) cs v) :
    read dialect cs = .ok v := by
  have stops : Stops [] := by rintro _ ⟨⟩
  obtain ⟨tail, inside, skipped⟩ := valueFrom_complete.padded spells_prompt spelled stops
  rw [List.append_nil] at inside
  rw [read, inside]
  simp [bind, Except.bind, skipped]
  rfl

theorem read_eq_ok_iff (strict : dialect.loneHalves = false) :
    read dialect cs = .ok v ↔ Padded (Spells dialect dialect.depth) cs v :=
  ⟨read_sound strict, read_complete⟩

/-! Objects alone -/

theorem Single.not_object {ms : Members} (single : Single dialect text (.object ms)) : False := by
  cases single with
  | number number => cases number

theorem spells_object_iff {ms : Members} : Spells dialect (depth + 1) text (.object ms) ↔
    ∃ pairs, Braced (Spells dialect depth) text pairs ∧ ms = Members.ofPairs pairs := by
  constructor
  · rintro (single | compound)
    · exact single.not_object.elim
    · cases compound with
      | object braced => exact ⟨_, braced, rfl⟩
  · rintro ⟨pairs, braced, rfl⟩
    exact .inr (.object braced)

/-- The text of one object with blanks around it, by its members as they are written. -/
def ObjectText (dialect : Dialect) : List CodePoint → Members → Prop :=
  Padded (Braced (Spells dialect (dialect.depth - 1)))

theorem read_object_iff (strict : dialect.loneHalves = false) (deep : 0 < dialect.depth)
    {ms : Members} :
    read dialect cs = .ok (.object ms) ↔
      ∃ pairs, ObjectText dialect cs pairs ∧ ms = Members.ofPairs pairs := by
  obtain ⟨depth, below⟩ := Nat.exists_eq_add_one.mpr deep
  rw [read_eq_ok_iff strict, ObjectText, below, Nat.add_sub_cancel]
  constructor
  · rintro ⟨blank, spelled, blankToo⟩
    obtain ⟨pairs, braced, same⟩ := spells_object_iff.mp spelled
    exact ⟨pairs, .pad blank braced blankToo, same⟩
  · rintro ⟨pairs, ⟨blank, braced, blankToo⟩, same⟩
    exact .pad blank (spells_object_iff.mpr ⟨_, braced, same⟩) blankToo

end TokenGate.Json
