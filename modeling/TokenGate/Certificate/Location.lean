import TokenGate.Certificate.Usage

/-! Extensions about where further things are found: services of the issuer, and lists of
certificates that were withdrawn. -/

set_option autoImplicit false

namespace TokenGate.Certificate

open Der

def place? (e : Element) : Option GeneralName := e.fields? do
  let _ ← Fields.next Element.identifier?
  Fields.next GeneralName.ofElement?

def readPlaces (e : Element) : Except Kind Unit := do
  GeneralName.readAll (← formed (e.each? place?))

/-- Where a list is found: under names of its own, or under attributes that are added to the
issuer's name. -/
inductive Point where
  | full (names : List GeneralName)
  | relative (attributes : List NameAttribute)
  deriving Repr, DecidableEq

def point? (e : Element) : Option Point :=
  if e.tag = wrapperTag 0 then (GeneralName.ofList? (e.retag sequenceTag)).map .full
  else if e.tag = wrapperTag 1 then (DistinguishedName.set? (wrapperTag 1) e).map .relative
  else none

structure Distribution where
  point : Option Point
  reasons : Option Bytes
  issuer : Option (List GeneralName)
  deriving Repr, DecidableEq

def distribution? (e : Element) : Option Distribution := e.fields? do
  let point ← Fields.wrapped 0 point?
  let reasons ← Fields.tagged 1 bitsTag Element.bits?
  let issuer ← Fields.taggedParts 2 sequenceTag GeneralName.ofList?
  pure ⟨point, reasons, issuer⟩

def Point.read : Point → Except Kind Unit
  | full names => GeneralName.readAll names
  | relative attributes => DistinguishedName.readSet attributes

def Point.isEmpty : Point → Bool
  | full names => names.isEmpty
  | relative attributes => attributes.isEmpty

/-- A distribution names its place or its issuer. -/
def Distribution.read (d : Distribution) : Except Kind Unit := do
  d.point.forM Point.read
  d.issuer.forM GeneralName.readAll
  require (d.point.any (!·.isEmpty) || d.issuer.any (!·.isEmpty))

def readDistributions (e : Element) : Except Kind Unit := do
  (← formed (e.each? distribution?)).forM Distribution.read

end TokenGate.Certificate
