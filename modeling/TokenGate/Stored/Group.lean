import TokenGate.Asn1.Algorithm
import TokenGate.Crypto.Curve
import TokenGate.Fault

/-! Curves that stored keys choose. A curve that is told by all its numbers is taken only if they
are those of one of three curves, with the seed that it was found by or without it. -/

set_option autoImplicit false

namespace TokenGate.Curve

open Der

def names : List (Bytes × Curve) :=
  [(identifier [1, 2, 840, 10045, 3, 1, 1], .p192), (identifier [1, 3, 132, 0, 33], .p224),
   (identifier [1, 2, 840, 10045, 3, 1, 7], .p256), (identifier [1, 3, 132, 0, 34], .p384),
   (identifier [1, 3, 132, 0, 35], .p521), (identifier [1, 3, 132, 0, 10], .koblitz256),
   (identifier [1, 3, 36, 3, 3, 2, 8, 1, 1, 7], .brainpool256),
   (identifier [1, 3, 36, 3, 3, 2, 8, 1, 1, 11], .brainpool384),
   (identifier [1, 3, 36, 3, 3, 2, 8, 1, 1, 13], .brainpool512)]

/-- Curves that may be told by their numbers, with the seeds that they were found by. -/
def seeds : List (Curve × Nat) :=
  [(.p256, 0xc49d360886e704936a6678e1139d26b7819f7e90),
   (.p384, 0xa335926aa319a27a1d00896a6773a4827acdac73),
   (.p521, 0xd09e8800291cb85396cc6717393284aaa0da64ba)]

def seedSize : Nat := 20

def domain (c : Curve) (seed : List Element) : List Element :=
  let k := c.parameters
  let octets (bytes : Bytes) : Element := ⟨octetsTag, bytes⟩
  [Der.ofNat 1, sequence [⟨oidTag, AlgorithmIdentifier.primeField⟩, Der.ofNat k.field],
   sequence ([octets (Bytes.ofNat c.size k.a), octets (Bytes.ofNat c.size k.b)] ++ seed),
   octets (c.plainPoint c.base), Der.ofNat k.order, Der.ofNat 1]

def ofDomain? (numbers : List Element) : Option Curve :=
  (seeds.find? fun entry =>
    let seed : Element := ⟨bitsTag, 0 :: Bytes.ofNat seedSize entry.2⟩
    numbers == entry.1.domain [] || numbers == entry.1.domain [seed]).map (·.1)

def ofChoice (choice : CurveChoice) : Except Kind Curve :=
  let found := match choice with
    | .named name => names.lookup name
    | .implied => none
    | .explicit numbers => ofDomain? numbers
  match found with
  | some c => .ok c
  | none => .error .algorithmUnsupported

end TokenGate.Curve
