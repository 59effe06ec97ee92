import TokenGate.Asn1.Algorithm
import TokenGate.Asn1.Pem
import TokenGate.Crypto.Cipher
import TokenGate.Crypto.Scrypt
import TokenGate.Fault

/-! Texts that are encrypted under a password, in elements that name all algorithms or in sections
that name the cipher in a header. -/

set_option autoImplicit false

namespace TokenGate.Password

open Der AlgorithmIdentifier

structure Sealed where
  algorithm : AlgorithmIdentifier
  text : Bytes
  deriving Repr, DecidableEq

def sealed? (bytes : Bytes) : Option Sealed :=
  (single? bytes).bind (Element.fields? do
    let algorithm ← Fields.next AlgorithmIdentifier.ofElement?
    let text ← Fields.next Element.octets?
    pure ⟨algorithm, text⟩)

def saltRounds? (p : Option Element) : Option (Bytes × Nat) :=
  p.bind (Element.fields? do
    let salt ← Fields.next Element.octets?
    let rounds ← Fields.next Element.nat?
    pure (salt, rounds))

def keyedHashes : List (Bytes × Hash) :=
  [(keyedSha1, .sha1), (within digestFamily 8, .sha224), (within digestFamily 9, .sha256),
   (within digestFamily 10, .sha384), (within digestFamily 11, .sha512)]

def stretching? (p : Option Element) : Option (Bytes × Nat × Bytes) :=
  p.bind (Element.fields? do
    let salt ← Fields.next Element.octets?
    let rounds ← Fields.next Element.nat?
    let _ ← Fields.perhaps integerTag Element.nat?
    let hash ← Fields.perhaps sequenceTag AlgorithmIdentifier.ofElement?
    pure (salt, rounds, (hash.map (·.name)).getD keyedSha1))

def memory? (p : Option Element) : Option (Bytes × Nat × Nat × Nat) :=
  p.bind (Element.fields? do
    let salt ← Fields.next Element.octets?
    let cost ← Fields.next Element.nat?
    let size ← Fields.next Element.nat?
    let lanes ← Fields.next Element.nat?
    let _ ← Fields.perhaps integerTag Element.nat?
    pure (salt, cost, size, lanes))

def roundLimit : Nat := Nat.pow 2 31

def keyFrom (a : AlgorithmIdentifier) (password : Bytes) (size : Nat) : Except Kind Bytes :=
  if a.name = stretching then
    match stretching? a.parameters with
    | none => .error .value
    | some (salt, rounds, name) =>
      if roundLimit ≤ rounds then .error .value
      else match keyedHashes.lookup name with
        | none => .error .algorithmUnsupported
        | some hash =>
          if rounds = 0 then .error .internal
          else .ok (hash.stretch password salt rounds size)
  else if a.name = memoryStretching then
    match memory? a.parameters with
    | none => .error .value
    | some (salt, cost, block, lanes) =>
      match Scrypt.stretch? password salt cost block lanes size with
      | some key => .ok key
      | none => .error .internal
  else .error .algorithmUnsupported

/-- The version of the parameters of RC2 whose keys have as many bits as they show. -/
def fullKeyVersion : Nat := 58

def cipherOf (a : AlgorithmIdentifier) : Except Kind (Cipher × Bytes) :=
  let start : Bytes := (a.parameters.map (·.content)).getD []
  if a.name = aes128 then .ok (.aes128, start)
  else if a.name = aes192 then .ok (.aes192, start)
  else if a.name = aes256 then .ok (.aes256, start)
  else if a.name = tripleDes then .ok (.tripleDes, start)
  else if a.name = rc2 then
    match a.parameters.bind (Element.fields? do
        let version ← Fields.perhaps integerTag Element.nat?
        let start ← Fields.next Element.octets?
        pure (version, start)) with
    | some (some version, start) =>
      if version = fullKeyVersion then .ok (.rc2, start) else .error .value
    | _ => .error .value
  else .error .algorithmUnsupported

/-- The text of blocks; a wrong password shows in their padding. -/
def opened (c : Cipher) (key start text : Bytes) : Except Kind Bytes :=
  match c.decrypt? key start text with
  | some bytes => .ok bytes
  | none => .error .value

def openScheme (p : Option Element) (text password : Bytes) : Except Kind Bytes := do
  let parts := p.bind (Element.fields? do
    let stretch ← Fields.next AlgorithmIdentifier.ofElement?
    let cipher ← Fields.next AlgorithmIdentifier.ofElement?
    pure (stretch, cipher))
  match parts with
  | none => .error .value
  | some (stretch, cipher) =>
    let (c, start) ← cipherOf cipher
    opened c (← keyFrom stretch password c.keySize) start text

/-- Open a text whose key and start both come from the password in characters. -/
def openDiversified (c : Cipher) (p : Option Element) (text password : Bytes) :
    Except Kind Bytes :=
  match saltRounds? p, Utf8.decode? password with
  | some (salt, rounds), some password =>
    opened c (Hash.sha1.diversify 1 password salt rounds c.keySize)
      (Hash.sha1.diversify 2 password salt rounds c.blockSize) text
  | _, _ => .error .value

/-- Open a text whose key and start are the halves of a hash. -/
def openHalved (p : Option Element) (text password : Bytes) : Except Kind Bytes :=
  match saltRounds? p with
  | some (salt, rounds) =>
    let key := Hash.md5.repeated (max rounds 1) (password ++ salt)
    opened .des (key.take 8) (key.drop 8) text
  | none => .error .value

def unlock (s : Sealed) (password : Bytes) : Except Kind Bytes :=
  let p := s.algorithm.parameters
  if s.algorithm.name = passwordScheme then openScheme p s.text password
  else if s.algorithm.name = shaTripleDes then openDiversified .tripleDes p s.text password
  else if s.algorithm.name = shaRc2 then openDiversified .rc2Short p s.text password
  else if s.algorithm.name = md5Des then openHalved p s.text password
  else .error .algorithmUnsupported

/-! Sections -/

def stateHeader : List Char := "Proc-Type".toList

def encryptedState : List Char := "4,ENCRYPTED".toList

def cipherHeader : List Char := "DEK-Info".toList

def header? (s : Pem.Section) (name : List Char) : Option (List Char) :=
  (s.headers.reverse.find? fun h => h.1 == name).map (·.2)

def sectionCiphers : List (String × Cipher) :=
  [("AES-128-CBC", .aes128), ("AES-256-CBC", .aes256), ("DES-EDE3-CBC", .tripleDes)]

def hexOctets? : List Char → Option Bytes
  | [] => some []
  | a :: b :: rest => do
    let high ← hexDigit? a
    let low ← hexDigit? b
    (hexOctets? rest).map (UInt8.ofNat (16 * high + low) :: ·)
  | _ => none
where
  hexDigit? (c : Char) : Option Nat :=
    if '0' ≤ c ∧ c ≤ '9' then some (c.toNat - 48)
    else if 'a' ≤ c ∧ c ≤ 'f' then some (c.toNat - 87)
    else if 'A' ≤ c ∧ c ≤ 'F' then some (c.toNat - 55)
    else none

def saltSize : Nat := 8

/-- The contents of a section and whether they were encrypted. -/
def sectionContent (s : Pem.Section) (password : Option Bytes) : Except Kind (Bytes × Bool) :=
  match header? s stateHeader with
  | none => .ok (s.content, false)
  | some state =>
    match (header? s cipherHeader).bind (Text.cutFirst ','), password with
    | none, _ => .error .value
    | some _, none => if state = encryptedState then .error .type else .error .value
    | some (name, start), some password =>
      match sectionCiphers.lookup (String.ofList name), hexOctets? start with
      | some c, some start =>
        if state ≠ encryptedState ∨ start.length < saltSize then .error .value
        else do
          let key := Hash.md5.chain password (start.take saltSize) c.keySize
          .ok (← opened c key start s.content, true)
      | _, _ => .error .value

end TokenGate.Password
