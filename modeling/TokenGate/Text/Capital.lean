/-! Letter case, as far as names in plain Latin letters need it. -/

set_option autoImplicit false

namespace TokenGate.Text

/-- The capital of a letter whose capital is one of A to Z; beside the plain small letters
these are the dotless i and the long s. Any other character stays. -/
def capital (c : Char) : Char :=
  if 'a' ≤ c ∧ c ≤ 'z' then Char.ofNat (c.toNat - 32)
  else if c = 'ı' then 'I'
  else if c = 'ſ' then 'S'
  else c

def capitals (cs : List Char) : List Char := cs.map capital

def small (c : Char) : Char :=
  if 'A' ≤ c ∧ c ≤ 'Z' then Char.ofNat (c.toNat + 32) else c

def smalls (cs : List Char) : List Char := cs.map small

end TokenGate.Text
