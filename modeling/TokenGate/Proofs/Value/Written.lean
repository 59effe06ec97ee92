import Mathlib.Data.List.Induction
import Mathlib.Data.List.Nodup
import TokenGate.Value.Basic

/-! Members as they are written: a name may come again. It has the value that is written last, and
the place where it is written first.
-/

set_option autoImplicit false

namespace TokenGate.Members

variable {ms pairs : Members} {name other : Text} {v w : Value}

def LastWritten (pairs : Members) (name : Text) (v : Value) : Prop :=
  ∃ before after, pairs = before ++ (name, v) :: after ∧ name ∉ after.map (·.1)

def names (pairs : Members) : List Text := (pairs.map (·.1)).eraseDups

theorem mem_names : name ∈ names pairs ↔ name ∈ pairs.map (·.1) := List.mem_eraseDups

theorem get?_cons (m : Text × Value) (ms : Members) (name : Text) :
    get? (m :: ms) name = if name = m.1 then some m.2 else get? ms name := by
  obtain ⟨first, v⟩ := m
  by_cases same : name = first
  · simp [get?, same]
  · simp [get?, List.lookup_cons, beq_false_of_ne same, same]

theorem get?_append (ms others : Members) (name : Text) :
    get? (ms ++ others) name = (get? ms name).or (get? others name) :=
  List.lookup_append

theorem get?_eq_none_iff : get? ms name = none ↔ name ∉ ms.map (·.1) := by
  induction ms with
  | nil => simp [get?]
  | cons m ms ih =>
    rw [get?_cons, List.map_cons, List.mem_cons, not_or, ← ih]
    split_ifs with same <;> simp [same]

theorem has_iff : has ms name = true ↔ name ∈ ms.map (·.1) := by
  rw [has, Option.isSome_iff_ne_none, ne_eq, get?_eq_none_iff, not_not]

theorem get?_replace_self (there : name ∈ ms.map (·.1)) :
    get? (ms.map fun m => if m.1 = name then (name, v) else m) name = some v := by
  induction ms with
  | nil => cases there
  | cons m ms ih =>
    rw [List.map_cons, get?_cons]
    by_cases here : m.1 = name
    · rw [if_pos here, if_pos rfl]
    · rw [if_neg here, if_neg (Ne.symm here)]
      exact ih ((List.mem_cons.mp there).resolve_left (Ne.symm here))

theorem get?_replace_of_ne (different : other ≠ name) :
    get? (ms.map fun m => if m.1 = name then (name, v) else m) other = get? ms other := by
  induction ms with
  | nil => rfl
  | cons m ms ih =>
    rw [List.map_cons, get?_cons, get?_cons, ih]
    by_cases here : m.1 = name
    · rw [if_pos here, if_neg different, here, if_neg different]
    · rw [if_neg here]

theorem get?_put (ms : Members) (name : Text) (v : Value) (other : Text) :
    get? (put ms name v) other = if other = name then some v else get? ms other := by
  unfold put
  by_cases there : name ∈ ms.map (·.1)
  · rw [if_pos (has_iff.mpr there)]
    split_ifs with same
    · rw [same, get?_replace_self there]
    · rw [get?_replace_of_ne same]
  · rw [if_neg (mt has_iff.mp there), get?_append, get?_cons]
    split_ifs with same
    · rw [same, get?_eq_none_iff.mpr there, Option.none_or]
    · exact Option.or_none

theorem ofPairs_concat (pairs : Members) (p : Text × Value) :
    ofPairs (pairs ++ [p]) = put (ofPairs pairs) p.1 p.2 := by
  rw [ofPairs, List.foldl_append]
  rfl

theorem get?_ofPairs (pairs : Members) (name : Text) :
    get? (ofPairs pairs) name = get? pairs.reverse name := by
  induction pairs using List.reverseRecOn with
  | nil => rfl
  | append_singleton pairs p ih =>
    rw [ofPairs_concat, get?_put, ih, List.reverse_concat, get?_cons]

theorem get?_ofPairs_eq_some_iff :
    get? (ofPairs pairs) name = some v ↔ LastWritten pairs name v := by
  rw [get?_ofPairs, get?, List.lookup_eq_some_iff]
  constructor
  · rintro ⟨after, before, cut, other⟩
    refine ⟨before.reverse, after.reverse, ?_, ?_⟩
    · rw [← List.reverse_reverse pairs, cut]
      simp
    · simp only [List.map_reverse, List.mem_reverse, List.mem_map, not_exists, not_and]
      rintro p member rfl
      simpa using other p member
  · rintro ⟨before, after, rfl, other⟩
    refine ⟨after.reverse, before.reverse, by simp, fun p member => ?_⟩
    rw [bne_iff_ne]
    rintro rfl
    exact other (List.mem_map_of_mem (List.mem_reverse.mp member))

theorem names_put (ms : Members) (name : Text) (v : Value) :
    (put ms name v).map (·.1) =
      if name ∈ ms.map (·.1) then ms.map (·.1) else ms.map (·.1) ++ [name] := by
  unfold put
  simp only [has_iff]
  split_ifs with there
  · rw [List.map_map]
    refine List.map_congr_left fun m _ => ?_
    simp only [Function.comp]
    split_ifs with same
    · exact same.symm
    · rfl
  · rw [List.map_append]
    rfl

theorem names_concat (pairs : Members) (p : Text × Value) :
    names (pairs ++ [p]) = if p.1 ∈ names pairs then names pairs else names pairs ++ [p.1] := by
  rw [names, names, List.map_append, List.eraseDups_append]
  simp only [List.mem_eraseDups]
  split_ifs with there
  · have nothing : [p.1].removeAll (pairs.map (·.1)) = [] := by
      simpa [List.removeAll] using there
    simp [nothing]
  · have new : [p.1].removeAll (pairs.map (·.1)) = [p.1] := by
      simpa [List.removeAll] using there
    simp [new, List.eraseDups_cons]

theorem nodup_names (pairs : Members) : (names pairs).Nodup := by
  induction pairs using List.reverseRecOn with
  | nil => exact List.nodup_nil
  | append_singleton pairs p ih =>
    rw [names_concat]
    split_ifs with there
    · exact ih
    · rw [← List.concat_eq_append]
      exact ih.concat there

/-- Every name keeps the place where it comes first. -/
theorem names_ofPairs (pairs : Members) : (ofPairs pairs).map (·.1) = names pairs := by
  induction pairs using List.reverseRecOn with
  | nil => rfl
  | append_singleton pairs p ih => rw [ofPairs_concat, names_put, ih, names_concat]

theorem mem_iff_get? (distinct : (ms.map (·.1)).Nodup) :
    (name, v) ∈ ms ↔ get? ms name = some v := by
  induction ms with
  | nil => simp [get?]
  | cons m ms ih =>
    rw [List.map_cons, List.nodup_cons] at distinct
    rw [List.mem_cons, get?_cons, ih distinct.2]
    obtain ⟨first, w⟩ := m
    split_ifs with same
    · have absent := get?_eq_none_iff.mpr distinct.1
      subst same
      simp [absent, eq_comm]
    · simp [same]

theorem mem_ofPairs_iff : (name, v) ∈ ofPairs pairs ↔ LastWritten pairs name v := by
  have distinct : ((ofPairs pairs).map (·.1)).Nodup := names_ofPairs pairs ▸ nodup_names pairs
  rw [mem_iff_get? distinct, get?_ofPairs_eq_some_iff]

end TokenGate.Members
