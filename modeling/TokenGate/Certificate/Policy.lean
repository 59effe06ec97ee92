import TokenGate.Certificate.Usage

/-! Policies that a certificate is issued under. A policy may be qualified by where its practice is
described, or by a notice to users. -/

set_option autoImplicit false

namespace TokenGate.Certificate

open Der

inductive Qualifier where
  | practice
  | notice
  deriving Repr, DecidableEq

def practiceIdentifier : Bytes := identifier [1, 3, 6, 1, 5, 5, 7, 2, 1]

def noticeIdentifier : Bytes := identifier [1, 3, 6, 1, 5, 5, 7, 2, 2]

def noticeReference? (e : Element) : Option Unit := e.fields? do
  let _ ← Fields.next Element.display?
  let _ ← Fields.next (Element.each? Element.nat?)

def notice? (e : Element) : Option Unit := e.fields? do
  let _ ← Fields.perhaps sequenceTag noticeReference?
  let _ ← Fields.ifTag isDisplayTag Element.display?

def qualifier? (e : Element) : Option Qualifier :=
  if e.tag = asciiTag then e.ascii?.map fun _ => .practice
  else (notice? e).map fun _ => .notice

def namedQualifier? (e : Element) : Option (Bytes × Qualifier) := e.fields? do
  let name ← Fields.next Element.identifier?
  let qualifier ← Fields.next qualifier?
  pure (name, qualifier)

def policy? (e : Element) : Option (List (Bytes × Qualifier)) := e.fields? do
  let _ ← Fields.next Element.identifier?
  let qualifiers ← Fields.perhaps sequenceTag (Element.each? namedQualifier?)
  pure (qualifiers.getD [])

def isNamedRight : Bytes × Qualifier → Bool
  | (name, .practice) => name == practiceIdentifier
  | (name, .notice) => name == noticeIdentifier

def readPolicies (e : Element) : Except Kind Unit := do
  let policies ← formed (e.each? policy?)
  require (policies.all fun qualifiers => qualifiers.all isNamedRight)

end TokenGate.Certificate
