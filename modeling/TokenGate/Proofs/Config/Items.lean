import TokenGate.Proofs.Config.Blanks

/-! Lists in settings. What is listed is read back item by item, however many blanks stand around
the items and however many blank parts between them; and what has been read of any text is read
again if it is joined.
-/

set_option autoImplicit false

namespace TokenGate.Config

open Text

/-- A text that can be an item: something that has no comma in it and no blanks around it. -/
structure Listable (item : String) : Prop where
  bare : Bare item.toList
  whole : ',' ∉ item.toList

/-- The parts of a list with these items: each of them with any blanks around it, and anywhere
among them parts that are blank. -/
inductive Dressed : List String → List String → Prop where
  | nil : Dressed [] []
  | blank {part : String} {listed parts : List String} : Blank part.toList →
      Dressed listed parts → Dressed listed (part :: parts)
  | item {item part : String} {listed parts : List String} : Pads item.toList part.toList →
      Dressed listed parts → Dressed (item :: listed) (part :: parts)

variable {cs core : List Char} {env : Environment} {name : String} {listed parts : List String}

/-! A text of parts -/

/-- Every comma ends a part: the items on both sides of it have nothing to do with each other. -/
theorem items_append (front back : List Char) :
    items (front ++ ',' :: back) = items front ++ items back := by
  simp only [items, splitAt_eq_splitOn, List.splitOn_eq_splitOnP]
  rw [List.splitOnP_append_cons front back (by simp), List.map_append, List.filter_append,
    List.map_append]

theorem items_of_lone (lone : ',' ∉ cs) :
    items cs = if Blank cs then [] else [String.ofList (trim cs)] := by
  rw [items, splitAt_eq_splitOn, List.splitOn_eq_singleton lone]
  by_cases blank : Blank cs
  · simp [blank, trim_of_blank blank]
  · have seen : trim cs ≠ [] := fun nothing => blank (trim_eq_nil_iff.mp nothing)
    simp [blank, seen]

theorem items_of_blank (blank : Blank cs) : items cs = [] := by
  have lone : ',' ∉ cs := fun member => absurd (blank _ member) (by decide)
  rw [items_of_lone lone, if_pos blank]

theorem items_of_pads_lone (pads : Pads core cs) (lone : ',' ∉ core) : items cs = items core := by
  have loneToo : ',' ∉ cs := fun member => lone ((pads.mem_iff rfl).mp member)
  simp only [items_of_lone lone, items_of_lone loneToo, pads.trim_eq, pads.blank_iff]

/-- Blanks around a whole text are blanks around its first and its last part. -/
theorem items_of_pads (pads : Pads core cs) : items cs = items core := by
  obtain ⟨before, after, blank, blankToo, rfl⟩ := pads
  have nothing : Blank [] := by simp [Blank]
  -- Each comma takes the first part off, so that the induction is on what is behind it.
  induction size : core.length using Nat.strong_induction_on generalizing core before with
  | _ n ih =>
    by_cases member : ',' ∈ core
    · obtain ⟨front, back, rfl, lone⟩ := List.eq_append_cons_of_mem member
      have first : items (before ++ front) = items front :=
        items_of_pads_lone ⟨before, [], blank, nothing, (List.append_nil _).symm⟩ lone
      have rest : items ([] ++ back ++ after) = items back :=
        ih back.length (by simp [← size]; omega) [] nothing rfl
      rw [List.nil_append] at rest
      have cut : before ++ (front ++ ',' :: back) ++ after =
          (before ++ front) ++ ',' :: (back ++ after) := by simp
      rw [cut, items_append, items_append, first, rest]
    · exact items_of_pads_lone ⟨before, after, blank, blankToo, rfl⟩ member

/-- That the whole text is trimmed before it is cut makes no difference. -/
theorem itemsOf_eq (env : Environment) (name : String) :
    itemsOf env name = items (env.text name) := by
  rw [itemsOf, toList_setting?, ← items_of_pads (pads_trim (env.text name))]

/-! Items of their own -/

theorem Listable.items_eq {item : String} (listable : Listable item) {part : List Char}
    (pads : Pads item.toList part) : items part = [item] := by
  rw [items_of_pads_lone pads listable.whole, items_of_lone listable.whole,
    if_neg listable.bare.not_blank, listable.bare.trim_eq, String.ofList_toList]

theorem listable_of_mem_itemsOf {item : String} (member : item ∈ itemsOf env name) :
    Listable item :=
  ⟨(bare_of_mem_itemsOf member).1, (bare_of_mem_itemsOf member).2⟩

theorem Dressed.refl (listed : List String) : Dressed listed listed := by
  induction listed with
  | nil => exact .nil
  | cons item listed ih => exact .item (.refl _) ih

theorem items_intercalate (parts : List (List Char)) :
    items ([','].intercalate parts) = parts.flatMap items := by
  induction parts with
  | nil => rfl
  | cons part parts ih =>
    cases parts with
    | nil => simp
    | cons next parts =>
      rw [List.intercalate_cons_cons, List.append_assoc, List.singleton_append, items_append, ih]
      rfl

theorem Dressed.items_eq (dressed : Dressed listed parts)
    (listable : ∀ item ∈ listed, Listable item) :
    items (",".intercalate parts).toList = listed := by
  rw [String.toList_intercalate]
  change items ([','].intercalate _) = _
  rw [items_intercalate, List.flatMap_map]
  -- Part by part: a blank one adds nothing, and a padded item adds itself.
  induction dressed with
  | nil => rfl
  | blank blank _ ih => rw [List.flatMap_cons, items_of_blank blank, ih listable, List.nil_append]
  | item pads _ ih =>
    obtain ⟨first, others⟩ := List.forall_mem_cons.mp listable
    rw [List.flatMap_cons, first.items_eq pads, ih others, List.singleton_append]

theorem text_of_lookup {text : String} (set : env.lookup name = some text) :
    env.text name = text.toList := by
  rw [Environment.text, set, Option.getD_some]

/-- A variable that is set to a list is read as the items of the list, in their order and as often
as they come; and one that is set to what has been read of any other variable, joined, is read the
same again. -/
theorem items_read_back (name : String) :
    (∀ listed parts, (∀ item ∈ listed, Listable item) → Dressed listed parts →
      ∀ env : Environment, env.lookup name = some (",".intercalate parts) →
        itemsOf env name = listed) ∧
    ∀ env again : Environment, again.lookup name = some (",".intercalate (itemsOf env name)) →
      itemsOf again name = itemsOf env name := by
  have read : ∀ listed parts, (∀ item ∈ listed, Listable item) → Dressed listed parts →
      ∀ env : Environment, env.lookup name = some (",".intercalate parts) →
        itemsOf env name = listed := by
    intro listed parts listable dressed env set
    rw [itemsOf_eq, text_of_lookup set]
    exact dressed.items_eq listable
  refine ⟨read, fun env again set => ?_⟩
  exact read _ _ (fun _ => listable_of_mem_itemsOf) (.refl _) again set

theorem sparse_read_back :
    itemsOf [("A", "x"), ("L", " p,, q\t,\u00a0,p")] "L" = ["p", "q", "p"] ∧
    itemsOf [("L", "p,q,p")] "L" = itemsOf [("A", "x"), ("L", " p,, q\t,\u00a0,p")] "L" := by
  obtain ⟨read, again⟩ := items_read_back "L"
  have listable : ∀ item ∈ ["p", "q", "p"], Listable item := by
    have single : ∀ c, isBlank c = false → c ≠ ',' → Listable (String.ofList [c]) := by
      intro c seen other
      exact ⟨⟨⟨c, by simp, seen⟩, ⟨c, by simp, seen⟩⟩, by simpa using Ne.symm other⟩
    have first := single 'p' rfl (by decide)
    simpa using ⟨first, single 'q' rfl (by decide), first⟩
  have dressed : Dressed ["p", "q", "p"] [" p", "", " q\t", "\u00a0", "p"] := by
    refine .item ⟨[' '], [], by decide, by decide, rfl⟩ (.blank (by decide) ?_)
    refine .item ⟨[' '], ['\t'], by decide, by decide, rfl⟩ (.blank (by decide) ?_)
    exact .item (.refl _) .nil
  have sparse := read _ _ listable dressed [("A", "x"), ("L", " p,, q\t,\u00a0,p")] (by decide)
  refine ⟨sparse, again _ [("L", "p,q,p")] ?_⟩
  rw [sparse]
  decide

end TokenGate.Config
