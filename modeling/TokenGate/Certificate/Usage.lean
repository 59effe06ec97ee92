import TokenGate.Asn1.Moment
import TokenGate.Certificate.GeneralName

/-! Extensions about what a certificate may be used for, and about the names that it may be
used with. -/

set_option autoImplicit false

namespace TokenGate.Certificate

open Der

def formed {α : Type} (a : Option α) : Except Kind α :=
  match a with
  | some a => .ok a
  | none => .error .value

def require (b : Bool) : Except Kind Unit := if b then .ok () else .error .value

/-- Whether the holder may issue certificates, and how many may follow one another. Only an issuer
has a bound. -/
def readConstraints (e : Element) : Except Kind Unit := do
  let (issuer, bound) ← formed (e.fields? do
    let issuer ← Fields.perhaps booleanTag fun e => e.boolean?.filter (· == true)
    let bound ← Fields.perhaps integerTag (Element.word? 64)
    pure (issuer, bound))
  require (issuer.isSome || bound.isNone)

def hasBit (bytes : Bytes) (n : Nat) : Bool :=
  match bytes[n / 8]? with
  | some b => b.toNat / Nat.pow 2 (7 - n % 8) % 2 == 1
  | none => false

/-- Purposes of a key. Agreement may be restricted to one direction, if it is among them. -/
def readPurposes (e : Element) : Except Kind Unit := do
  let bits ← formed e.bits?
  require (hasBit bits 4 || !(hasBit bits 7 || hasBit bits 8))

def readFurtherPurposes (e : Element) : Except Kind Unit := do
  let names ← formed (e.each? Element.identifier?)
  require (!names.isEmpty)

/-- From how many steps on policies have to be told, and may not be mapped; one of both. -/
def readPolicyConstraints (e : Element) : Except Kind Unit := do
  let (explicit, mapping) ← formed (e.fields? do
    let explicit ← Fields.tagged 0 integerTag (Element.word? 64)
    let mapping ← Fields.tagged 1 integerTag (Element.word? 64)
    pure (explicit, mapping))
  require (explicit.isSome || mapping.isSome)

def readCount (e : Element) : Except Kind Unit := (formed e.nat?).map fun _ => ()

def readNull (e : Element) : Except Kind Unit := require e.isNull

def knownFeatures : List Nat := [5, 17]

def readFeatures (e : Element) : Except Kind Unit := do
  let features ← formed (e.each? (Element.word? 64))
  if !features.all knownFeatures.contains then .error .key
  else if features.isEmpty then .error .type
  else .ok ()

def readTemplate (e : Element) : Except Kind Unit := do
  let _ ← formed (e.fields? do
    let _ ← Fields.next Element.identifier?
    let _ ← Fields.perhaps integerTag (Element.word? 32)
    let _ ← Fields.perhaps integerTag (Element.word? 32))

/-- When the key may be used: a start, an end or both in order, in years that have a number. -/
def readPeriod (e : Element) : Except Kind Unit := do
  let moment (n : Nat) : Fields (Option Moment) :=
    Fields.tagged n longTimeTag fun e => fineMoment? e.content
  let (first, last) ← formed (e.fields? do
    let first ← moment 0
    let last ← moment 1
    pure (first, last))
  let hasYear (m : Option Moment) : Bool := m.all fun m => m.headD 0 != 0
  require ((first.isSome || last.isSome) && hasYear first && hasYear last &&
    match first, last with
    | some a, some b => !b.lex a
    | _, _ => true)

/-- A part of a tree of names, with the fewest and the most steps below its base. -/
def subtree? (e : Element) : Option GeneralName := e.fields? do
  let base ← Fields.next GeneralName.ofElement?
  let _ ← Fields.tagged 0 integerTag fun e => (Element.word? 64 e).filter (· != 0)
  let _ ← Fields.tagged 1 integerTag (Element.word? 64)
  pure base

/-- Names that bound a tree: no single addresses, and no hosts with a star. -/
def readTree (names : List GeneralName) : Except Kind Unit := do
  require (!names.isEmpty)
  names.forM fun name =>
    match name with
    | .address octets => if GeneralName.isHost octets then .error .type else .ok ()
    | _ => .ok ()
  names.forM fun name =>
    match name with
    | .host text => require (!text.contains '*')
    | _ => .ok ()

def readNameConstraints (e : Element) : Except Kind Unit := do
  let (permitted, excluded) ← formed (e.fields? do
    let permitted ← Fields.taggedParts 0 sequenceTag (Element.each? subtree?)
    let excluded ← Fields.taggedParts 1 sequenceTag (Element.each? subtree?)
    pure (permitted, excluded))
  permitted.forM GeneralName.readAll
  excluded.forM GeneralName.readAll
  permitted.forM readTree
  excluded.forM readTree
  require (permitted.isSome || excluded.isSome)

def readNames (e : Element) : Except Kind Unit := do
  GeneralName.readAll (← formed (GeneralName.ofList? e))

end TokenGate.Certificate
