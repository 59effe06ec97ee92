import TokenGate.Text.Utf8

/-! Characters in rows and columns. The replacement character stands where there is none. -/

set_option autoImplicit false

namespace TokenGate.Charset

structure Grid where
  rows : Array (Array Char)

namespace Grid

def ofRows (rows : List String) : Grid := ⟨(rows.map fun row => row.toList.toArray).toArray⟩

/-- From the rows that are not empty, and their numbers. -/
def ofNumbered (rows : List (Nat × String)) : Grid :=
  let size := rows.foldl (fun n row => max n (row.1 + 1)) 0
  ⟨rows.foldl (fun grid row => grid.setIfInBounds row.1 row.2.toList.toArray)
    (Array.replicate size #[])⟩

def at? (g : Grid) (row column : Nat) : Option Char := do
  let c ← (← g.rows[row]?)[column]?
  if c = Utf8.replacement then none else some c

/-- The character under two octets, from the one for the first row and column on. -/
def pair? (g : Grid) (first a b : Nat) : Option Char :=
  if first ≤ a ∧ first ≤ b then g.at? (a - first) (b - first) else none

def characters (g : Grid) : List Char :=
  (g.rows.toList.flatMap Array.toList).filter (· ≠ Utf8.replacement)

end Grid

/-- All characters of a range that are not among others, in order. -/
def others (first size : Nat) (taken : List Char) : Array Char :=
  let taken := taken.filter fun c => first ≤ c.toNat
  let free := taken.foldl (fun free c => free.setIfInBounds (c.toNat - first) false)
    (Array.replicate size true)
  let places := (List.range size).filter fun i => free.getD i false
  (places.map fun i => Char.ofNat (first + i)).toArray

end TokenGate.Charset
