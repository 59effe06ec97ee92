import TokenGate.Json.Reader

/-! Which texts are JSON, told without a reader: how a text spells a value. Escaped halves that
stand alone spell nothing. A list or an object takes one from the depth that is left for what stands
in it.
-/

set_option autoImplicit false

namespace TokenGate.Json

/-- The text between two quotes, and the code points that it stands for. -/
inductive Quoted : List CodePoint → List CodePoint → Prop where
  | done : Quoted [] []
  | plain {p : CodePoint} {text ps : List CodePoint} : p ≠ .char '"' → p ≠ .char '\\' →
      32 ≤ p.toNat → Quoted text ps → Quoted (p :: text) (p :: ps)
  | short {e : CodePoint} {c : Char} {text ps : List CodePoint} : shortEscape? e = some c →
      Quoted text ps → Quoted (.char '\\' :: e :: text) (.char c :: ps)
  | unit {a b c d : CodePoint} {n : Nat} {text ps : List CodePoint} : unit? a b c d = some n →
      isHigh n = false → isLow n = false → Quoted text ps →
      Quoted (.char '\\' :: .char 'u' :: a :: b :: c :: d :: text) (.ofNat n :: ps)
  | pair {a b c d e f g h : CodePoint} {high low : Nat} {text ps : List CodePoint} :
      unit? a b c d = some high → isHigh high = true →
      unit? e f g h = some low → isLow low = true → Quoted text ps →
      Quoted (.char '\\' :: .char 'u' :: a :: b :: c :: d ::
          .char '\\' :: .char 'u' :: e :: f :: g :: h :: text)
        (.char (joinHalves high low) :: ps)

/-! Numbers -/

def Digits (ds : List CodePoint) : Prop := ds ≠ [] ∧ ∀ c ∈ ds, isDecimal c = true

def Whole (ds : List CodePoint) : Prop :=
  Digits ds ∧ (ds.head? = some (.char '0') → ds = [.char '0'])

inductive Fraction : List CodePoint → List CodePoint → Prop where
  | absent : Fraction [] []
  | present {ds : List CodePoint} : Digits ds → Fraction (.char '.' :: ds) ds

inductive Signed : List CodePoint → Int → Prop where
  | bare {ds : List CodePoint} : Digits ds → Signed ds (natOfDigits ds)
  | plus {ds : List CodePoint} : Digits ds → Signed (.char '+' :: ds) (natOfDigits ds)
  | minus {ds : List CodePoint} : Digits ds → Signed (.char '-' :: ds) (-(natOfDigits ds : Int))

inductive Exponent : List CodePoint → Int → Prop where
  | absent : Exponent [] 0
  | present {mark : CodePoint} {text : List CodePoint} {power : Int} :
      mark = .char 'e' ∨ mark = .char 'E' → Signed text power → Exponent (mark :: text) power

def sign (negative : Bool) : List CodePoint := if negative then [.char '-'] else []

def Bounded (dialect : Dialect) (negative : Bool) (whole : List CodePoint) : Prop :=
  dialect.boundsWhole = true → (sign negative ++ whole).length ≤ Text.greatestSize

inductive Magnitude (dialect : Dialect) (negative : Bool) : List CodePoint → Value → Prop where
  | int {whole : List CodePoint} : Whole whole → Bounded dialect negative whole →
      whole.length ≤ Text.greatestSize →
      Magnitude dialect negative whole
        (.int (if negative then -(natOfDigits whole : Int) else natOfDigits whole))
  | float {whole fraction ds exponent : List CodePoint} {power : Int} : Whole whole →
      Bounded dialect negative whole → Fraction fraction ds → Exponent exponent power →
      fraction ++ exponent ≠ [] →
      Magnitude dialect negative (whole ++ (fraction ++ exponent))
        (.float (Binary64.ofDecimal negative (natOfDigits (whole ++ ds)) (power - ds.length)))

inductive Single (dialect : Dialect) : List CodePoint → Value → Prop where
  | null : Single dialect [.char 'n', .char 'u', .char 'l', .char 'l'] .null
  | yes : Single dialect [.char 't', .char 'r', .char 'u', .char 'e'] (.bool true)
  | no : Single dialect [.char 'f', .char 'a', .char 'l', .char 's', .char 'e'] (.bool false)
  | nan : Single dialect [.char 'N', .char 'a', .char 'N'] (.float .nan)
  | infinite (negative : Bool) :
      Single dialect (sign negative ++ [.char 'I', .char 'n', .char 'f', .char 'i', .char 'n',
          .char 'i', .char 't', .char 'y'])
        (.float (.infinite negative))
  | number {negative : Bool} {text : List CodePoint} {v : Value} :
      Magnitude dialect negative text v → Single dialect (sign negative ++ text) v
  | text {text ps : List CodePoint} : Quoted text ps →
      Single dialect (.char '"' :: (text ++ [.char '"'])) (.str (Text.ofPoints ps))

/-! Lists and objects -/

def Blank (cs : List CodePoint) : Prop := ∀ c ∈ cs, isSpace c = true

section

variable {α : Type}

inductive Padded (spells : List CodePoint → α → Prop) : List CodePoint → α → Prop where
  | pad {before text after : List CodePoint} {a : α} : Blank before → spells text a → Blank after →
      Padded spells (before ++ (text ++ after)) a

inductive Listed (spells : List CodePoint → α → Prop) : List CodePoint → List α → Prop where
  | last {text : List CodePoint} {a : α} : spells text a → Listed spells text [a]
  | next {text more : List CodePoint} {a : α} {others : List α} : spells text a →
      Listed spells more others → Listed spells (text ++ .char ',' :: more) (a :: others)

inductive Sequence (spells : List CodePoint → α → Prop) : List CodePoint → List α → Prop where
  | empty {text : List CodePoint} : Blank text → Sequence spells text []
  | filled {text : List CodePoint} {all : List α} : Listed spells text all →
      Sequence spells text all

end

inductive Entry (spells : List CodePoint → Value → Prop) :
    List CodePoint → Text × Value → Prop where
  | entry {before name ps between text : List CodePoint} {v : Value} : Blank before →
      Quoted name ps → Blank between → Padded spells text v →
      Entry spells (before ++ .char '"' :: (name ++ .char '"' :: (between ++ .char ':' :: text)))
        (Text.ofPoints ps, v)

inductive Braced (spells : List CodePoint → Value → Prop) :
    List CodePoint → List (Text × Value) → Prop where
  | braces {text : List CodePoint} {pairs : List (Text × Value)} :
      Sequence (Entry spells) text pairs →
      Braced spells (.char '\x7b' :: (text ++ [.char '\x7d'])) pairs

inductive Compound (spells : List CodePoint → Value → Prop) : List CodePoint → Value → Prop where
  | list {text : List CodePoint} {items : List Value} : Sequence (Padded spells) text items →
      Compound spells (.char '[' :: (text ++ [.char ']'])) (.list items)
  /-- Of members with one name the last one counts. -/
  | object {text : List CodePoint} {pairs : List (Text × Value)} : Braced spells text pairs →
      Compound spells text (.object (Members.ofPairs pairs))

def Nothing (_ : List CodePoint) (_ : Value) : Prop := False

/-- The text of a value with `depth` lists and objects left to open. -/
def Spells (dialect : Dialect) : Nat → List CodePoint → Value → Prop
  | 0, text, v =>
    Single dialect text v ∨ (dialect.emptyBelow = true ∧ Compound Nothing text v)
  | depth + 1, text, v => Single dialect text v ∨ Compound (Spells dialect depth) text v

end TokenGate.Json
