import TokenGate.Certificate.Admission
import TokenGate.Certificate.Location
import TokenGate.Certificate.Policy
import TokenGate.Certificate.Timestamp

/-! Extensions of certificates. Those whose form is known are read, all of them, before any of
them is used. -/

set_option autoImplicit false

namespace TokenGate

structure Extension where
  identifier : Bytes
  critical : Bool
  value : Bytes
  deriving Repr, DecidableEq

namespace Extension

open Der Certificate

def standard (n : Nat) : Bytes := Der.identifier [2, 5, 29, n]

def internet (n : Nat) : Bytes := Der.identifier [1, 3, 6, 1, 5, 5, 7, 1, n]

def subjectKeyIdentifier : Bytes := standard 14

def authorityKeyIdentifier : Bytes := standard 35

structure AuthorityKey where
  identifier : Option Bytes
  issuer : Option (List GeneralName)
  serial : Option Nat
  deriving Repr, DecidableEq

def authorityKey? (e : Element) : Option AuthorityKey := e.fields? do
  let identifier ← Fields.tagged 0 octetsTag Element.octets?
  let issuer ← Fields.taggedParts 1 sequenceTag GeneralName.ofList?
  let serial ← Fields.tagged 2 integerTag Element.nat?
  pure ⟨identifier, issuer, serial⟩

/-- Names and serial number come together or not at all. -/
def AuthorityKey.read (k : AuthorityKey) : Except Kind Unit := do
  k.issuer.forM GeneralName.readAll
  require (k.issuer.isSome == k.serial.isSome)

def readAuthorityKey (e : Element) : Except Kind Unit := do
  (← formed (authorityKey? e)).read

def readSubjectKey (e : Element) : Except Kind Unit := (formed e.octets?).map fun _ => ()

def readers : List (Bytes × (Element → Except Kind Unit)) :=
  [(subjectKeyIdentifier, readSubjectKey), (authorityKeyIdentifier, readAuthorityKey),
   (standard 15, readPurposes), (standard 16, readPeriod), (standard 17, readNames),
   (standard 18, readNames), (standard 19, readConstraints), (standard 30, readNameConstraints),
   (standard 31, readDistributions), (standard 32, readPolicies),
   (standard 36, readPolicyConstraints), (standard 37, readFurtherPurposes),
   (standard 46, readDistributions), (standard 54, readCount), (internet 1, readPlaces),
   (internet 11, readPlaces), (internet 24, readFeatures),
   (Der.identifier [1, 3, 6, 1, 5, 5, 7, 48, 1, 5], readNull),
   (Der.identifier [1, 3, 6, 1, 4, 1, 11129, 2, 4, 2], readTimestamps),
   (Der.identifier [1, 3, 6, 1, 4, 1, 11129, 2, 4, 3], readNull),
   (Der.identifier [1, 3, 6, 1, 4, 1, 311, 21, 7], readTemplate),
   (Der.identifier [1, 3, 36, 8, 3, 3], readAdmissions)]

def read (x : Extension) : Except Kind Unit :=
  match readers.lookup x.identifier with
  | none => .ok ()
  | some reader => do reader (← formed (single? x.value))

/-- The value of the first extension with a name. -/
def find? (extensions : List Extension) (name : Bytes) : Option Element :=
  (extensions.find? fun x => x.identifier == name).bind fun x => single? x.value

def hasDuplicate : List Bytes → Bool
  | [] => false
  | b :: rest => rest.contains b || hasDuplicate rest

/-- No extension comes twice, and all that are known can be read. -/
def readAll (extensions : List Extension) : Except Kind Unit :=
  if hasDuplicate (extensions.map (·.identifier)) then .error .duplicateExtension
  else extensions.forM read

end Extension

end TokenGate
