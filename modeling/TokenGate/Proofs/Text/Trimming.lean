import Mathlib.Data.List.TakeWhile
import TokenGate.Text.Blank

/-! What trimming takes off and what it leaves: blanks around a text are taken off, however many
there are, and what is left begins and ends with something else. Cutting at a separator keeps all
characters but the separators.
-/

set_option autoImplicit false

namespace TokenGate.Text

def Blank (cs : List Char) : Prop := ∀ c ∈ cs, isBlank c = true

instance (cs : List Char) : Decidable (Blank cs) := List.decidableBAll _ cs

def Pads (core cs : List Char) : Prop :=
  ∃ before after, Blank before ∧ Blank after ∧ cs = before ++ core ++ after

structure Bare (cs : List Char) : Prop where
  begins : ∃ c, cs.head? = some c ∧ isBlank c = false
  ends : ∃ c, cs.getLast? = some c ∧ isBlank c = false

variable {cs core before after : List Char} {c sep : Char}

/-! Blanks at the ends -/

theorem Pads.refl (cs : List Char) : Pads cs cs :=
  ⟨[], [], by simp [Blank], by simp [Blank], (List.append_nil cs).symm⟩

theorem exists_trimLeft (cs : List Char) : ∃ before, Blank before ∧ cs = before ++ trimLeft cs :=
  ⟨cs.takeWhile isBlank, fun _ => List.mem_takeWhile_imp, List.takeWhile_append_dropWhile.symm⟩

theorem exists_trimRight (cs : List Char) : ∃ after, Blank after ∧ cs = trimRight cs ++ after := by
  obtain ⟨before, blank, whole⟩ := exists_trimLeft cs.reverse
  refine ⟨before.reverse, by simpa [Blank] using blank, ?_⟩
  rw [trimRight, ← trimLeft, ← List.reverse_append, ← whole, List.reverse_reverse]

theorem pads_trim (cs : List Char) : Pads (trim cs) cs := by
  obtain ⟨before, blank, front⟩ := exists_trimLeft cs
  obtain ⟨after, blankToo, back⟩ := exists_trimRight (trimLeft cs)
  exact ⟨before, after, blank, blankToo, by rw [List.append_assoc, trim, ← back, ← front]⟩

theorem trimLeft_append {before : List Char} (blank : Blank before) :
    trimLeft (before ++ cs) = trimLeft cs :=
  List.dropWhile_append_of_pos blank

theorem trimRight_append {after : List Char} (blank : Blank after) :
    trimRight (cs ++ after) = trimRight cs := by
  have reversed : ∀ c ∈ after.reverse, isBlank c = true := by simpa [Blank] using blank
  rw [trimRight, List.reverse_append, List.dropWhile_append_of_pos reversed, trimRight]

theorem trim_of_blank (blank : Blank cs) : trim cs = [] := by
  have nothing : trimLeft cs = [] := by simpa [trimLeft, Blank] using blank
  rw [trim, nothing]
  rfl

theorem Pads.trim_eq (pads : Pads core cs) : trim cs = trim core := by
  obtain ⟨before, after, blank, blankToo, rfl⟩ := pads
  obtain ⟨skipped, blankSkipped, whole⟩ := exists_trimLeft core
  rw [List.append_assoc, trim, trimLeft_append blank]
  cases left : trimLeft core with
  | nil =>
    -- There is nothing but blanks between the blanks.
    have blankCore : Blank core := by rwa [whole, left, List.append_nil]
    have blankAll : Blank (core ++ after) := by
      intro c member
      exact (List.mem_append.mp member).elim (blankCore c) (blankToo c)
    rw [trim_of_blank blankCore, ← trim, trim_of_blank blankAll]
  | cons c rest =>
    have stays : trimLeft (core ++ after) = trimLeft core ++ after := by
      rw [trimLeft, List.dropWhile_append, ← trimLeft, left]
      simp
    rw [stays, trimRight_append blankToo, trim]

theorem trim_eq_nil_iff : trim cs = [] ↔ Blank cs := by
  refine ⟨fun nothing => ?_, trim_of_blank⟩
  obtain ⟨before, after, blank, blankToo, whole⟩ := pads_trim cs
  rw [nothing, List.append_nil] at whole
  rw [whole]
  intro c member
  exact (List.mem_append.mp member).elim (blank c) (blankToo c)

theorem head_trimLeft (first : (trimLeft cs).head? = some c) : isBlank c = false := by
  have stopped := List.head?_dropWhile_not isBlank cs
  rwa [← trimLeft, first] at stopped

theorem last_trimRight (last : (trimRight cs).getLast? = some c) : isBlank c = false := by
  rw [trimRight, List.getLast?_reverse, ← trimLeft] at last
  exact head_trimLeft last

theorem bare_trim (seen : ¬ Blank cs) : Bare (trim cs) := by
  have something : trim cs ≠ [] := fun nothing => seen (trim_eq_nil_iff.mp nothing)
  obtain ⟨after, -, whole⟩ := exists_trimRight (trimLeft cs)
  obtain ⟨c, rest, begins⟩ := List.exists_cons_of_ne_nil something
  constructor
  · have first : (trimLeft cs).head? = some c := by
      rw [whole, ← trim, begins]
      rfl
    exact ⟨c, by rw [begins]; rfl, head_trimLeft first⟩
  · have ends := List.getLast?_eq_some_getLast something
    exact ⟨_, ends, last_trimRight ends⟩

theorem Bare.not_blank (bare : Bare core) : ¬ Blank core := by
  obtain ⟨c, first, seen⟩ := bare.begins
  intro blank
  rw [blank c (List.mem_of_mem_head? first)] at seen
  cases seen

theorem Bare.trim_eq (bare : Bare core) : trim core = core := by
  obtain ⟨c, first, seen⟩ := bare.begins
  obtain ⟨d, last, seenToo⟩ := bare.ends
  have left : trimLeft core = core := by
    obtain ⟨rest, rfl⟩ := List.head?_eq_some_iff.mp first
    rw [trimLeft, List.dropWhile_cons_of_neg (by simp [seen])]
  obtain ⟨front, rfl⟩ := List.getLast?_eq_some_iff.mp last
  rw [trim, left, trimRight, List.reverse_append, List.reverse_singleton, List.singleton_append,
    List.dropWhile_cons_of_neg (by simp [seenToo]), List.reverse_cons, List.reverse_reverse]

/-- What is left of a text, if anything is, is what stands in it between blanks. -/
theorem trim_eq_iff : trim cs = core ∧ core ≠ [] ↔ Pads core cs ∧ Bare core := by
  constructor
  · rintro ⟨rfl, something⟩
    exact ⟨pads_trim cs, bare_trim fun blank => something (trim_eq_nil_iff.mpr blank)⟩
  · rintro ⟨pads, bare⟩
    refine ⟨pads.trim_eq.trans bare.trim_eq, ?_⟩
    rintro rfl
    exact bare.not_blank (by simp [Blank])

theorem mem_of_mem_trim (member : c ∈ trim cs) : c ∈ cs := by
  obtain ⟨before, after, -, -, whole⟩ := pads_trim cs
  rw [whole]
  exact List.mem_append_left _ (List.mem_append_right _ member)

theorem mem_trim_iff (seen : isBlank c = false) : c ∈ trim cs ↔ c ∈ cs := by
  refine ⟨mem_of_mem_trim, fun member => ?_⟩
  obtain ⟨before, after, blank, blankToo, whole⟩ := pads_trim cs
  rw [whole] at member
  rcases List.mem_append.mp member with front | back
  · rcases List.mem_append.mp front with blanks | kept
    · simp [blank c blanks] at seen
    · exact kept
  · simp [blankToo c back] at seen

theorem Pads.blank_iff (pads : Pads core cs) : Blank cs ↔ Blank core := by
  rw [← trim_eq_nil_iff, ← trim_eq_nil_iff, pads.trim_eq]

theorem Pads.mem_iff (pads : Pads core cs) (seen : isBlank c = false) : c ∈ cs ↔ c ∈ core := by
  rw [← mem_trim_iff seen, pads.trim_eq, mem_trim_iff seen]

/-! Parts between separators -/

theorem splitAt_eq_splitOn (sep : Char) (cs : List Char) : splitAt sep cs = cs.splitOn sep := by
  induction cs with
  | nil => rfl
  | cons c rest ih =>
    rw [List.splitOn_eq_splitOnP, List.splitOnP_cons_eq_if_modifyHead, ← List.splitOn_eq_splitOnP,
      splitAt, ih]
    cases parts : rest.splitOn sep with
    | nil => exact absurd parts (List.splitOn_ne_nil sep rest)
    | cons part parts => simp

theorem exists_mem_splitAt : (∃ part ∈ splitAt sep cs, c ∈ part) ↔ c ∈ cs ∧ c ≠ sep := by
  induction cs with
  | nil => simp [splitAt]
  | cons d rest ih =>
    rw [splitAt]
    split
    · next same =>
      subst same
      simp only [List.mem_cons, exists_eq_or_imp, List.not_mem_nil, false_or, ih]
      exact ⟨fun ⟨member, other⟩ => ⟨.inr member, other⟩,
        fun ⟨member, other⟩ => ⟨member.resolve_left other, other⟩⟩
    · next other =>
      have extended : (c = d ∨ (c ∈ rest ∧ c ≠ sep)) ↔ c ∈ d :: rest ∧ c ≠ sep := by
        rw [List.mem_cons, or_and_right]
        refine or_congr_left ⟨fun same => ⟨same, same ▸ other⟩, And.left⟩
      rw [← extended, ← ih]
      -- The character joins the first of the parts behind it.
      cases splitAt sep rest with
      | nil => simp
      | cons part parts => simp [or_assoc]

theorem not_mem_of_mem_splitAt {part : List Char} (member : part ∈ splitAt sep cs) : sep ∉ part :=
  fun inside => (exists_mem_splitAt.mp ⟨part, member, inside⟩).2 rfl

/-- There is more than blanks in some part if the text has a character that is neither a blank nor
a separator. -/
theorem exists_seen_part :
    (∃ part ∈ splitAt sep cs, ¬ Blank part) ↔ ∃ c ∈ cs, c ≠ sep ∧ isBlank c = false := by
  simp only [Blank, not_forall, Bool.not_eq_true]
  constructor
  · rintro ⟨part, member, c, inside, seen⟩
    obtain ⟨there, other⟩ := exists_mem_splitAt.mp ⟨part, member, inside⟩
    exact ⟨c, there, other, seen⟩
  · rintro ⟨c, there, other, seen⟩
    obtain ⟨part, member, inside⟩ := exists_mem_splitAt.mpr ⟨there, other⟩
    exact ⟨part, member, c, inside, seen⟩

/-! The parts at the first separator -/

theorem cutFirst_append (absent : sep ∉ before) (after : List Char) :
    cutFirst sep (before ++ sep :: after) = some (before, after) := by
  induction before with
  | nil => rw [List.nil_append, cutFirst, if_pos rfl]
  | cons c before ih =>
    have other := List.ne_of_not_mem_cons absent
    rw [List.cons_append, cutFirst, if_neg other.symm, ih (List.not_mem_of_not_mem_cons absent)]
    rfl

theorem cutFirst_eq_some (cut : cutFirst sep cs = some (before, after)) :
    cs = before ++ sep :: after ∧ sep ∉ before := by
  induction cs generalizing before with
  | nil => cases cut
  | cons c rest ih =>
    rw [cutFirst] at cut
    split at cut
    · next same =>
      cases cut
      exact ⟨by rw [same, List.nil_append], List.not_mem_nil⟩
    · next other =>
      obtain ⟨⟨front, back⟩, cut, same⟩ := Option.map_eq_some_iff.mp cut
      cases same
      obtain ⟨rfl, absent⟩ := ih cut
      exact ⟨rfl, List.not_mem_cons_of_ne_of_not_mem (Ne.symm other) absent⟩

end TokenGate.Text
