/-! Texts of code points. Half of a pair may stand alone in a text: it can be told in JSON, but it
is no character and cannot be encoded. Texts of characters are kept apart from those with such a
half in them. -/

set_option autoImplicit false

namespace TokenGate

/-- A character, or half of a pair that stands alone. -/
inductive CodePoint where
  | char (c : Char)
  | half (n : Fin 0x800)
  deriving Repr, DecidableEq

namespace CodePoint

def toNat : CodePoint → Nat
  | char c => c.toNat
  | half n => 0xd800 + n

/-- There is none past the last character. -/
def ofNat (n : Nat) : CodePoint :=
  if valid : n.isValidChar then char (Char.ofNatAux n valid)
  else if low : n < 0xe000 then half ⟨n - 0xd800, by omega⟩
  else char '\ufffd'

def char? : CodePoint → Option Char
  | char c => some c
  | half _ => none

def isHalf : CodePoint → Bool
  | char _ => false
  | half _ => true

@[simp] theorem isHalf_char (c : Char) : (char c).isHalf = false := rfl

@[simp] theorem char?_char (c : Char) : (char c).char? = some c := rfl

@[simp] theorem toNat_char (c : Char) : (char c).toNat = c.toNat := rfl

theorem ofNat_toNat (c : Char) : ofNat c.toNat = char c := by
  have valid : c.toNat.isValidChar := c.valid
  rw [ofNat, dif_pos valid]
  rfl

end CodePoint

/-- A text in which half of a pair stands alone. -/
structure Halved where
  points : List CodePoint
  lone : points.any CodePoint.isHalf = true
  deriving Repr, DecidableEq

inductive Text where
  | proper (s : String)
  | halved (t : Halved)
  deriving Repr, DecidableEq

instance : Coe String Text := ⟨.proper⟩

instance : Inhabited Text := ⟨.proper ""⟩

namespace Text

def points : Text → List CodePoint
  | proper s => s.toList.map .char
  | halved t => t.points

def ofPoints (points : List CodePoint) : Text :=
  if lone : points.any CodePoint.isHalf = true then .halved ⟨points, lone⟩
  else .proper (String.ofList (points.filterMap CodePoint.char?))

def isProper : Text → Bool
  | proper _ => true
  | halved _ => false

def proper? : Text → Option String
  | proper s => some s
  | halved _ => none

def append : Text → Text → Text
  | proper s, proper t => .proper (s ++ t)
  | s, t => ofPoints (s.points ++ t.points)

instance : Append Text := ⟨append⟩

def isBefore (s t : Text) : Bool :=
  decide (s.points.map CodePoint.toNat < t.points.map CodePoint.toNat)

@[simp] theorem proper_append (s t : String) : proper s ++ proper t = proper (s ++ t) := rfl

@[simp] theorem isProper_proper (s : String) : (proper s).isProper = true := rfl

theorem ofPoints_map_char (cs : List Char) :
    ofPoints (cs.map .char) = .proper (String.ofList cs) := by
  have whole : ¬ (cs.map CodePoint.char).any CodePoint.isHalf = true := by simp
  have each : CodePoint.char? ∘ CodePoint.char = some := rfl
  rw [ofPoints, dif_neg whole, List.filterMap_map, each, List.filterMap_some]

theorem ofPoints_points (t : Text) : ofPoints t.points = t := by
  cases t with
  | proper s => rw [points, ofPoints_map_char, String.ofList_toList]
  | halved t => rw [points, ofPoints, dif_pos t.lone]

theorem map_char_filterMap_char? {ps : List CodePoint}
    (whole : ∀ p ∈ ps, p.isHalf = false) : (ps.filterMap CodePoint.char?).map .char = ps := by
  induction ps with
  | nil => rfl
  | cons p ps ih =>
    obtain ⟨first, others⟩ := List.forall_mem_cons.mp whole
    cases p with
    | char c => rw [List.filterMap_cons_some (CodePoint.char?_char c), List.map_cons, ih others]
    | half n => cases first

@[simp] theorem points_ofPoints (ps : List CodePoint) : (ofPoints ps).points = ps := by
  by_cases lone : ps.any CodePoint.isHalf = true
  · rw [ofPoints, dif_pos lone, points]
  · have whole : ∀ p ∈ ps, p.isHalf = false := by simpa using lone
    rw [ofPoints, dif_neg lone, points, String.toList_ofList, map_char_filterMap_char? whole]

@[simp] theorem points_append (s t : Text) : (s ++ t).points = s.points ++ t.points := by
  cases s with
  | proper s =>
    cases t with
    | proper t => simp [points]
    | halved t => exact points_ofPoints _
  | halved s => cases t <;> exact points_ofPoints _

theorem append_ne_empty {s : Text} (nonempty : s.points ≠ []) (t : Text) : s ++ t ≠ .proper "" := by
  intro same
  have all : s.points ++ t.points = [] := by rw [← points_append, same]; rfl
  exact nonempty (List.append_eq_nil_iff.mp all).1

end Text

end TokenGate
