import TokenGate.Asn1.Algorithm
import TokenGate.Asn1.Moment
import TokenGate.Asn1.Pem
import TokenGate.Certificate.Extension

/-! Certificates, as far as a connector is identified by them: their structure, and the two key
identifiers among their extensions. -/

set_option autoImplicit false

namespace TokenGate

structure Certificate where
  extensions : List Extension
  deriving Repr, DecidableEq

namespace Certificate

open Der

/-- An extension; that it is critical is only said when it is. -/
def extension? (e : Element) : Option Extension := e.fields? do
  let name ← Fields.next Element.identifier?
  let critical ← Fields.perhaps booleanTag fun e => e.boolean?.filter (· == true)
  let value ← Fields.next Element.octets?
  pure ⟨name, critical.isSome, value⟩

def extensions? (e : Element) : Option (List Extension) :=
  (e.each? extension?).filter fun es => !es.isEmpty

def validity? (e : Element) : Option Unit := e.fields? do
  let _ ← Fields.next Element.time?
  let _ ← Fields.next Element.time?

def publicKey? (e : Element) : Option Unit := e.fields? do
  let _ ← Fields.next AlgorithmIdentifier.ofElement?
  let _ ← Fields.next Element.bits?

/-- The version, which is told only if it is not the first, and the extensions. -/
def contents? (e : Element) : Option (Option Nat × List Extension) := e.fields? do
  let version ← Fields.wrapped 0 fun e => (e.word? 8).filter (· != 0)
  let _ ← Fields.next fun e => if e.isInteger then some () else none
  let _ ← Fields.next AlgorithmIdentifier.ofElement?
  let _ ← Fields.next DistinguishedName.ofElement?
  let _ ← Fields.next validity?
  let _ ← Fields.next DistinguishedName.ofElement?
  let _ ← Fields.next publicKey?
  let _ ← Fields.tagged 1 bitsTag Element.bits?
  let _ ← Fields.tagged 2 bitsTag Element.bits?
  let extensions ← Fields.wrapped 3 extensions?
  pure (version, extensions.getD [])

/-- Contents, the algorithm of their signature, and the signature. -/
def signed? (e : Element) : Option (Option Nat × List Extension) := e.fields? do
  let contents ← Fields.next contents?
  let _ ← Fields.next AlgorithmIdentifier.ofElement?
  let _ ← Fields.next Element.bits?
  pure contents

def thirdVersion : Nat := 2

/-- A certificate of the first version or of the third. -/
def ofDer (bytes : Bytes) : Except Kind Certificate :=
  match (single? bytes).bind signed? with
  | none => .error .value
  | some (none, extensions) => .ok ⟨extensions⟩
  | some (some n, extensions) =>
    if n = thirdVersion then .ok ⟨extensions⟩ else .error .certificateVersion

def labels : List String := ["CERTIFICATE", "X509 CERTIFICATE"]

def ofText (cs : List Char) : Except Kind Certificate :=
  match Pem.find? labels cs with
  | some s => ofDer s.content
  | none => .error .value

def keyIdentifiers (c : Certificate) : Except Fault (Bytes × Bytes) := do
  (Extension.readAll c.extensions).mapError .crash
  let find := Extension.find? c.extensions
  match find Extension.subjectKeyIdentifier with
  | none => .error .noSubjectKeyIdentifier
  | some subject =>
    match find Extension.authorityKeyIdentifier with
    | none => .error .noAuthorityKeyIdentifier
    | some authority =>
      match subject.octets?, (Extension.authorityKey? authority).bind (·.identifier) with
      | some s, some a => .ok (s, a)
      | _, _ => .error .noKeyIdentifier

end Certificate

end TokenGate
