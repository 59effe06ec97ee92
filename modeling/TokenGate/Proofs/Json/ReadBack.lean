import TokenGate.Json.Encoding
import TokenGate.Proofs.Json.Scalar
import TokenGate.Proofs.Value.Written

/-! A value is read back from the text that was written for it. Binary64 numbers are left aside; of
them the text has no more digits than tell them from their neighbours.
-/

set_option autoImplicit false

namespace TokenGate

namespace Members

theorem foldl_put {ms pairs : Members} (distinct : ((ms ++ pairs).map (·.1)).Nodup) :
    pairs.foldl (fun ms p => put ms p.1 p.2) ms = ms ++ pairs := by
  induction pairs generalizing ms with
  | nil => simp
  | cons p pairs ih =>
    have absent : p.1 ∉ ms.map (·.1) := by
      rw [List.map_append, List.nodup_append] at distinct
      exact fun member => distinct.2.2 _ member _ List.mem_cons_self rfl
    have shifted : ms ++ p :: pairs = (ms ++ [p]) ++ pairs := by simp
    rw [List.foldl_cons, put, if_neg (mt has_iff.mp absent), shifted]
    exact ih (shifted ▸ distinct)

theorem ofPairs_eq {ms : Members} (distinct : (ms.map (·.1)).Nodup) : ofPairs ms = ms :=
  foldl_put (by simpa using distinct)

end Members

namespace Json

/-- Values that can be read back with `depth` lists and objects left to open. Of texts this is said
only if they are proper: a written half that stands alone may be read with another one after it. -/
inductive Legible : Nat → Value → Prop where
  | null {depth : Nat} : Legible depth .null
  | bool {depth : Nat} (b : Bool) : Legible depth (.bool b)
  | int {depth : Nat} {n : Int} : Text.writable n = true → Legible depth (.int n)
  | str {depth : Nat} (s : String) : Legible depth (.str (.proper s))
  | list {depth : Nat} {items : List Value} : (∀ v ∈ items, Legible depth v) →
      Legible (depth + 1) (.list items)
  | object {depth : Nat} {ms : Members} : (ms.map (·.1)).Nodup →
      (∀ m ∈ ms, m.1.isProper = true) → (∀ m ∈ ms, Legible depth m.2) →
      Legible (depth + 1) (.object ms)

def Reads (reader : List CodePoint → Except Error (Value × List CodePoint)) (v : Value) : Prop :=
  ∀ rest, Ends rest → reader ((write v).map .char ++ rest) = .ok (v, rest)

/-- A text that starts a value: there is no space to skip, and it ends no list. -/
def Begins (cs : List CodePoint) : Prop :=
  ∃ p tail, cs = p :: tail ∧ isSpace p = false ∧ p ≠ .char ']'

variable {dialect : Dialect} {depth : Nat} {v : Value} {rest : List CodePoint} {items : List Value}
  {ms : Members} {reader : List CodePoint → Except Error (Value × List CodePoint)} {fuel : Nat}

theorem skipSpace_cons {p : CodePoint} (seen : isSpace p = false) :
    skipSpace (p :: rest) = p :: rest := by
  simp [skipSpace, seen]

theorem Begins.skipSpace_eq {cs : List CodePoint} (begins : Begins cs) :
    skipSpace (cs ++ rest) = cs ++ rest := by
  obtain ⟨c, tail, rfl, seen, -⟩ := begins
  exact skipSpace_cons seen

theorem Begins.length_pos {cs : List CodePoint} (begins : Begins cs) : 0 < cs.length := by
  obtain ⟨c, tail, rfl, -⟩ := begins
  exact Nat.zero_lt_succ _

theorem ne_of_isDecimal {p q : CodePoint} (digit : isDecimal p = true)
    (foreign : isDecimal q = false) : p ≠ q := by
  rintro rfl
  cases digit.symm.trans foreign

theorem exists_toDigits (n : Nat) :
    ∃ c cs, Nat.toDigits 10 n = c :: cs ∧ isDecimal (.char c) = true := by
  obtain ⟨c, cs, begins⟩ := List.exists_cons_of_ne_nil (@Nat.toDigits_ne_nil n 10)
  exact ⟨c, cs, begins, isDecimal_of_mem_toDigits (begins ▸ List.mem_cons_self)⟩

theorem intDigits_begins (n : Int) :
    ∃ c cs, Text.intDigits n = c :: cs ∧ (c = '-' ∨ isDecimal (.char c) = true) := by
  obtain ⟨c, cs, begins, digit⟩ := exists_toDigits n.natAbs
  rw [Text.intDigits, begins]
  split
  · exact ⟨'-', _, rfl, .inl rfl⟩
  · exact ⟨c, cs, rfl, .inr digit⟩

theorem isSpace_of_isDecimal {p : CodePoint} (digit : isDecimal p = true) : isSpace p = false := by
  have other := fun q => @ne_of_isDecimal p q digit
  simp [isSpace, other (.char ' ') rfl, other (.char '\t') rfl, other (.char '\n') rfl,
    other (.char '\r') rfl]

theorem begins_intDigits (n : Int) : Begins ((Text.intDigits n).map .char) := by
  obtain ⟨c, cs, begins, rfl | digit⟩ := intDigits_begins n
  · exact ⟨.char '-', cs.map .char, by rw [begins, List.map_cons], by decide, by decide⟩
  · exact ⟨.char c, cs.map .char, by rw [begins, List.map_cons], isSpace_of_isDecimal digit,
      ne_of_isDecimal digit rfl⟩

theorem Legible.begins (legible : Legible depth v) : Begins ((write v).map .char) := by
  cases legible with
  | null => exact ⟨.char 'n', _, rfl, by decide, by decide⟩
  | bool b => cases b <;> exact ⟨_, _, rfl, by decide, by decide⟩
  | int => exact begins_intDigits _
  | str => exact ⟨.char '"', _, rfl, by decide, by decide⟩
  | list => exact ⟨.char '[', _, rfl, by decide, by decide⟩
  | object => exact ⟨.char '\x7b', _, rfl, by decide, by decide⟩

theorem writeString_append (s : String) : (writeString (.proper s)).map .char ++ rest =
    .char '"' :: ((s.toList.flatMap escapeChar).map .char ++ .char '"' :: rest) := by
  have each : ∀ c, escapePoint (.char c) = escapeChar c := fun _ => rfl
  simp only [writeString, Text.points, List.flatMap_map, each]
  simp

theorem writeItems_cons (v : Value) (something : items ≠ []) :
    writeItems (v :: items) = write v ++ ',' :: writeItems items := by
  rw [writeItems]
  exact something

theorem writeMembers_cons (m : Text × Value) (something : ms ≠ []) :
    writeMembers (m :: ms) = writeString m.1 ++ ':' :: (write m.2 ++ ',' :: writeMembers ms) := by
  rw [writeMembers, List.append_assoc]
  · rfl
  · exact something

/-! One more item or member -/

theorem itemsFrom_last (reads : Reads reader v) (begins : Begins ((write v).map .char)) :
    itemsFrom reader (fuel + 1) ((write v).map .char ++ .char ']' :: rest) = .ok ([v], rest) := by
  have ends : Ends (.char ']' :: rest) := by simp [Ends]
  rw [itemsFrom, begins.skipSpace_eq, reads _ ends]
  rfl

theorem itemsFrom_next (reads : Reads reader v) (begins : Begins ((write v).map .char)) :
    itemsFrom reader (fuel + 1) ((write v).map .char ++ .char ',' :: rest) =
      (itemsFrom reader fuel rest).map fun r => (v :: r.1, r.2) := by
  have ends : Ends (.char ',' :: rest) := by simp [Ends]
  rw [itemsFrom, begins.skipSpace_eq, reads _ ends]
  simp only [bind, Except.bind, skipSpace_cons (show isSpace (.char ',') = false by decide)]
  cases itemsFrom reader fuel rest <;> rfl

theorem membersFrom_last (name : String) (reads : Reads reader v)
    (begins : Begins ((write v).map .char)) :
    membersFrom dialect reader (fuel + 1) ((writeString (.proper name)).map .char ++
        .char ':' :: ((write v).map .char ++ .char '\x7d' :: rest)) =
      .ok ([(.proper name, v)], rest) := by
  have ends : Ends (.char '\x7d' :: rest) := by simp [Ends]
  rw [writeString_append, membersFrom, skipSpace_cons (by decide)]
  simp only [stringFrom_escaped, bind, Except.bind, Text.ofPoints_map_char, String.ofList_toList,
    skipSpace_cons (show isSpace (.char ':') = false by decide), begins.skipSpace_eq,
    reads _ ends, skipSpace_cons (show isSpace (.char '\x7d') = false by decide)]

theorem membersFrom_next (name : String) (reads : Reads reader v)
    (begins : Begins ((write v).map .char)) :
    membersFrom dialect reader (fuel + 1) ((writeString (.proper name)).map .char ++
        .char ':' :: ((write v).map .char ++ .char ',' :: rest)) =
      (membersFrom dialect reader fuel rest).map fun r => ((.proper name, v) :: r.1, r.2) := by
  have ends : Ends (.char ',' :: rest) := by simp [Ends]
  rw [writeString_append, membersFrom, skipSpace_cons (by decide)]
  simp only [stringFrom_escaped, bind, Except.bind, Text.ofPoints_map_char, String.ofList_toList,
    skipSpace_cons (show isSpace (.char ':') = false by decide), begins.skipSpace_eq,
    reads _ ends, skipSpace_cons (show isSpace (.char ',') = false by decide)]
  cases membersFrom dialect reader fuel rest <;> rfl

theorem itemsFrom_writeItems (something : items ≠ []) (reads : ∀ v ∈ items, Reads reader v)
    (begins : ∀ v ∈ items, Begins ((write v).map .char)) (enough : items.length ≤ fuel) :
    itemsFrom reader fuel ((writeItems items).map .char ++ .char ']' :: rest) =
      .ok (items, rest) := by
  -- On the items; each of them takes one of the fuel.
  induction items generalizing fuel with
  | nil => exact absurd rfl something
  | cons v items ih =>
    obtain ⟨readsFirst, readsRest⟩ := List.forall_mem_cons.mp reads
    obtain ⟨beginsFirst, beginsRest⟩ := List.forall_mem_cons.mp begins
    obtain _ | fuel := fuel
    · cases enough
    by_cases more : items = []
    · rw [more, writeItems, itemsFrom_last readsFirst beginsFirst]
    · rw [writeItems_cons v more, List.map_append, List.append_assoc, List.map_cons,
        List.cons_append, itemsFrom_next readsFirst beginsFirst,
        ih more readsRest beginsRest (Nat.le_of_succ_le_succ enough)]
      rfl

theorem membersFrom_writeMembers (something : ms ≠ []) (proper : ∀ m ∈ ms, m.1.isProper = true)
    (reads : ∀ m ∈ ms, Reads reader m.2) (begins : ∀ m ∈ ms, Begins ((write m.2).map .char))
    (enough : ms.length ≤ fuel) :
    membersFrom dialect reader fuel ((writeMembers ms).map .char ++ .char '\x7d' :: rest) =
      .ok (ms, rest) := by
  induction ms generalizing fuel with
  | nil => exact absurd rfl something
  | cons m ms ih =>
    obtain ⟨properFirst, properRest⟩ := List.forall_mem_cons.mp proper
    obtain ⟨name | halved, v⟩ := m
    case halved => cases properFirst
    obtain ⟨readsFirst, readsRest⟩ := List.forall_mem_cons.mp reads
    obtain ⟨beginsFirst, beginsRest⟩ := List.forall_mem_cons.mp begins
    obtain _ | fuel := fuel
    · cases enough
    by_cases more : ms = []
    · rw [more, writeMembers, List.map_append, List.append_assoc, List.map_cons, List.cons_append,
        membersFrom_last name readsFirst beginsFirst]
    · rw [writeMembers_cons _ more, List.map_append, List.append_assoc, List.map_cons,
        List.cons_append, List.map_append, List.append_assoc, List.map_cons, List.cons_append,
        membersFrom_next name readsFirst beginsFirst,
        ih more properRest readsRest beginsRest (Nat.le_of_succ_le_succ enough)]
      rfl

/-! Values of each sort -/

theorem valueFrom_scalar {p : CodePoint} (text : p ≠ .char '"') (list : p ≠ .char '[')
    (object : p ≠ .char '\x7b') :
    valueFrom dialect depth (p :: rest) = scalar dialect (p :: rest) := by
  cases depth <;> simp [valueFrom, text, list, object]

theorem valueFrom_list {cs : List CodePoint} (begins : Begins cs) :
    valueFrom dialect (depth + 1) (.char '[' :: (cs ++ rest)) =
      (itemsFrom (valueFrom dialect depth) (cs ++ rest).length (cs ++ rest)).map
        fun r => (.list r.1, r.2) := by
  obtain ⟨c, tail, rfl, seen, other⟩ := begins
  rw [valueFrom, List.cons_append, skipSpace_cons seen]
  simp [other]

theorem valueFrom_object :
    valueFrom dialect (depth + 1) (.char '\x7b' :: .char '"' :: rest) =
      (membersFrom dialect (valueFrom dialect depth) (CodePoint.char '"' :: rest).length
        (.char '"' :: rest)).map fun r => (.object (Members.ofPairs r.1), r.2) := by
  rw [valueFrom, pairsFrom, skipSpace_cons (by decide)]
  simp

theorem scalar_minus {p : CodePoint} (digit : isDecimal p = true) :
    scalar dialect (.char '-' :: p :: rest) = magnitude dialect true (p :: rest) := by
  simp [scalar, ne_of_isDecimal digit (show isDecimal (.char 'I') = false from rfl)]

theorem scalar_digit {p : CodePoint} (digit : isDecimal p = true) :
    scalar dialect (p :: rest) = magnitude dialect false (p :: rest) := by
  have other := fun q => @ne_of_isDecimal p q digit
  simp [scalar, other (.char 'n') rfl, other (.char 't') rfl, other (.char 'f') rfl,
    other (.char 'N') rfl, other (.char 'I') rfl, other (.char '-') rfl]

theorem scalar_intDigits {n : Int} (written : Text.writable n = true) (ends : Ends rest) :
    scalar plain ((Text.intDigits n).map .char ++ rest) = .ok (.int n, rest) := by
  have short : n.natAbs < Nat.pow 10 Text.greatestSize := of_decide_eq_true written
  obtain ⟨c, tail, begins, digit⟩ := exists_toDigits n.natAbs
  have read := fun negative => magnitude_toDigits negative short ends
  rw [begins, List.map_cons, List.cons_append] at read
  rw [Text.intDigits, begins]
  split
  · next negative =>
    have same : -(n.natAbs : Int) = n := by omega
    rw [List.map_cons, List.map_cons, List.cons_append, List.cons_append, scalar_minus digit, read,
      if_pos rfl, same]
  · next positive =>
    have same : (n.natAbs : Int) = n := by omega
    rw [List.map_cons, List.cons_append, scalar_digit digit, read, if_neg Bool.false_ne_true, same]

/-! The texts of lists and objects -/

theorem length_le_writeItems (begins : ∀ v ∈ items, Begins ((write v).map .char)) :
    items.length ≤ (writeItems items).length := by
  induction items with
  | nil => exact Nat.zero_le _
  | cons v items ih =>
    obtain ⟨beginsFirst, beginsRest⟩ := List.forall_mem_cons.mp begins
    have something : 0 < (write v).length := by simpa using beginsFirst.length_pos
    by_cases more : items = []
    · rw [more, writeItems]
      exact something
    · have later := ih beginsRest
      rw [writeItems_cons v more]
      simp only [List.length_append, List.length_cons]
      omega

theorem length_le_writeMembers (ms : Members) : ms.length ≤ (writeMembers ms).length := by
  induction ms with
  | nil => exact Nat.zero_le _
  | cons m ms ih =>
    by_cases more : ms = []
    · simp [more, writeMembers, writeString]
    · rw [writeMembers_cons m more]
      simp only [List.length_append, List.length_cons]
      omega

theorem begins_writeItems (begins : ∀ w ∈ v :: items, Begins ((write w).map .char)) :
    Begins ((writeItems (v :: items)).map .char) := by
  obtain ⟨c, tail, begun, seen, other⟩ := begins v List.mem_cons_self
  by_cases more : items = []
  · subst more
    exact ⟨c, tail, begun, seen, other⟩
  · rw [writeItems_cons v more, List.map_append, begun]
    exact ⟨c, _, rfl, seen, other⟩

theorem writeMembers_begins (m : Text × Value) (ms : Members) (rest : List CodePoint) :
    ∃ cs, (writeMembers (m :: ms)).map .char ++ rest = .char '"' :: cs := by
  obtain ⟨name, v⟩ := m
  cases ms <;> exact ⟨_, rfl⟩

theorem Legible.reads (legible : Legible depth v) : Reads (valueFrom plain depth) v := by
  -- On why it is legible: what stands in a list or an object is read with one less left to open.
  induction legible with
  | null => exact fun rest _ => valueFrom_scalar (by decide) (by decide) (by decide)
  | bool b => cases b <;> exact fun rest _ => valueFrom_scalar (by decide) (by decide) (by decide)
  | @int depth n written =>
    intro rest ends
    have passed : valueFrom plain depth ((Text.intDigits n).map .char ++ rest) =
        scalar plain ((Text.intDigits n).map .char ++ rest) := by
      obtain ⟨c, cs, begins, rfl | digit⟩ := intDigits_begins n
      · rw [begins]
        exact valueFrom_scalar (by decide) (by decide) (by decide)
      · rw [begins]
        exact valueFrom_scalar (ne_of_isDecimal digit rfl) (ne_of_isDecimal digit rfl)
          (ne_of_isDecimal digit rfl)
    rw [write, passed]
    exact scalar_intDigits written ends
  | str s =>
    intro rest ends
    rw [write, writeString_append]
    simp [valueFrom, stringFrom_escaped, Except.map, Text.ofPoints_map_char]
  | @list depth items legible reads =>
    intro rest ends
    cases items with
    | nil => rfl
    | cons v items =>
      have begins : ∀ w ∈ v :: items, Begins ((write w).map .char) :=
        fun w member => (legible w member).begins
      -- No list has more items than characters.
      have long : (v :: items).length ≤
          ((writeItems (v :: items)).map CodePoint.char ++ .char ']' :: rest).length := by
        rw [List.length_append, List.length_map]
        exact Nat.le_add_right_of_le (length_le_writeItems begins)
      have shape : (write (.list (v :: items))).map .char ++ rest =
          .char '[' :: ((writeItems (v :: items)).map .char ++ .char ']' :: rest) := by
        simp [write]
      rw [shape, valueFrom_list (begins_writeItems begins)]
      exact congrArg (Except.map _) (itemsFrom_writeItems (List.cons_ne_nil _ _) reads begins long)
  | @object depth ms distinct proper legible reads =>
    intro rest ends
    cases ms with
    | nil => rfl
    | cons m ms =>
      have begins : ∀ w ∈ m :: ms, Begins ((write w.2).map .char) :=
        fun w member => (legible w member).begins
      have long : (m :: ms).length ≤
          ((writeMembers (m :: ms)).map CodePoint.char ++ .char '\x7d' :: rest).length := by
        rw [List.length_append, List.length_map]
        exact Nat.le_add_right_of_le (length_le_writeMembers _)
      obtain ⟨cs, quoted⟩ := writeMembers_begins m ms (.char '\x7d' :: rest)
      have shape : (write (.object (m :: ms))).map .char ++ rest =
          .char '\x7b' :: .char '"' :: cs := by
        rw [← quoted]
        simp [write]
      rw [shape, valueFrom_object, ← quoted,
        membersFrom_writeMembers (List.cons_ne_nil _ _) proper reads begins long, Except.map,
        Members.ofPairs_eq distinct]

theorem read_write (legible : Legible plain.depth v) :
    read plain ((write v).map .char) = .ok v := by
  have ends : Ends [] := by simp [Ends]
  have whole := legible.reads [] ends
  have begins : skipSpace ((write v).map .char ++ []) = (write v).map .char ++ [] :=
    legible.begins.skipSpace_eq
  rw [List.append_nil] at whole begins
  rw [read, begins, whole]
  rfl

end Json

end TokenGate
