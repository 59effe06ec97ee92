import TokenGate.Certificate.Usage

/-! Admissions of the holder of a certificate to professions, and who granted them. -/

set_option autoImplicit false

namespace TokenGate.Certificate

open Der

def namingAuthority? (e : Element) : Option Unit := e.fields? do
  let _ ← Fields.perhaps oidTag Element.identifier?
  let _ ← Fields.perhaps asciiTag Element.ascii?
  let _ ← Fields.ifTag isDisplayTag Element.display?

def profession? (e : Element) : Option Unit := e.fields? do
  let _ ← Fields.wrapped 0 namingAuthority?
  let _ ← Fields.next (Element.each? Element.display?)
  let _ ← Fields.perhaps sequenceTag (Element.each? Element.identifier?)
  let _ ← Fields.perhaps printableTag Element.printable?
  let _ ← Fields.perhaps octetsTag Element.octets?

def admission? (e : Element) : Option (Option GeneralName) := e.fields? do
  let authority ← Fields.wrapped 0 GeneralName.ofElement?
  let _ ← Fields.wrapped 1 namingAuthority?
  let _ ← Fields.next (Element.each? profession?)
  pure authority

def readAdmissions (e : Element) : Except Kind Unit := do
  let (authority, admissions) ← formed (e.fields? do
    let authority ← Fields.ifTag GeneralName.isTag GeneralName.ofElement?
    let admissions ← Fields.next (Element.each? admission?)
    pure (authority, admissions))
  authority.forM GeneralName.read
  admissions.forM fun granted => granted.forM GeneralName.read

end TokenGate.Certificate
