import TokenGate.Asn1.Der

/-! Names of algorithms with their parameters. For a known name the parameters have the form that
goes with it; for any other name they may be any one element. -/

set_option autoImplicit false

namespace TokenGate

structure AlgorithmIdentifier where
  name : Bytes
  parameters : Option Der.Element
  deriving Repr, DecidableEq

/-- A curve that is told by its name, left to the context, or told by all its numbers. -/
inductive CurveChoice where
  | named (name : Bytes)
  | implied
  | explicit (domain : List Der.Element)
  deriving Repr, DecidableEq

namespace AlgorithmIdentifier

open Der

/-! Names, in families -/

def rsaFamily : List Nat := [1, 2, 840, 113549, 1, 1]
def hashFamily : List Nat := [2, 16, 840, 1, 101, 3, 4, 2]
def signatureFamily : List Nat := [2, 16, 840, 1, 101, 3, 4, 3]
def passwordFamily : List Nat := [1, 2, 840, 113549, 1, 5]
def digestFamily : List Nat := [1, 2, 840, 113549, 2]

def within (family : List Nat) (n : Nat) : Bytes := identifier (family ++ [n])

def rsa : Bytes := within rsaFamily 1
def maskGeneration : Bytes := within rsaFamily 8
def saltedRsa : Bytes := within rsaFamily 10
def curve : Bytes := identifier [1, 2, 840, 10045, 2, 1]
def primeField : Bytes := identifier [1, 2, 840, 10045, 1, 1]
def dsa : Bytes := identifier [1, 2, 840, 10040, 4, 1]
def diffieHellman : Bytes := identifier [1, 2, 840, 10046, 2, 1]
def keyAgreement : Bytes := identifier [1, 2, 840, 113549, 1, 3, 1]
def x25519 : Bytes := identifier [1, 3, 101, 110]
def x448 : Bytes := identifier [1, 3, 101, 111]
def ed25519 : Bytes := identifier [1, 3, 101, 112]
def ed448 : Bytes := identifier [1, 3, 101, 113]
def passwordScheme : Bytes := within passwordFamily 13
def stretching : Bytes := within passwordFamily 12
def md5Des : Bytes := within passwordFamily 3
def shaTripleDes : Bytes := identifier [1, 2, 840, 113549, 1, 12, 1, 3]
def shaRc2 : Bytes := identifier [1, 2, 840, 113549, 1, 12, 1, 6]
def memoryStretching : Bytes := identifier [1, 3, 6, 1, 4, 1, 11591, 4, 11]
def aes128 : Bytes := identifier [2, 16, 840, 1, 101, 3, 4, 1, 2]
def aes192 : Bytes := identifier [2, 16, 840, 1, 101, 3, 4, 1, 22]
def aes256 : Bytes := identifier [2, 16, 840, 1, 101, 3, 4, 1, 42]
def tripleDes : Bytes := identifier [1, 2, 840, 113549, 3, 7]
def rc2 : Bytes := identifier [1, 2, 840, 113549, 3, 2]
def sha1 : Bytes := identifier [1, 3, 14, 3, 2, 26]
def keyedSha1 : Bytes := within digestFamily 7

/-- Names whose parameters are null or absent: hashes, keyed hashes and signatures over hashes. -/
def nullable : List Bytes :=
  [sha1, rsa, identifier [1, 3, 14, 3, 2, 29], identifier [1, 2, 840, 10040, 4, 3],
   identifier [1, 2, 840, 10045, 4, 1]] ++
    [4, 5, 11, 12, 13, 14].map (within rsaFamily) ++
    [1, 2, 3, 4, 7, 8, 9, 10].map (within hashFamily) ++
    [1, 2, 3, 4, 9, 10, 11, 12, 13, 14, 15, 16].map (within signatureFamily) ++
    [1, 2, 3, 4].map (within [1, 2, 840, 10045, 4, 3]) ++
    [7, 8, 9, 10, 11].map (within digestFamily)

def bare : List Bytes := [x25519, x448, ed25519, ed448]

/-- The parts of a domain that is told by all its numbers: version, field, equation, base, order,
cofactor and hash. -/
def domain? (e : Element) : Option (List Element) := do
  let field (e : Element) : Option Unit := e.fields? do
    let name ← Fields.next Element.identifier?
    Fields.next fun p => if name = primeField then p.nat?.map fun _ => () else some ()
  let equation (e : Element) : Option Unit := e.fields? do
    let _ ← Fields.next Element.octets?
    let _ ← Fields.next Element.octets?
    let _ ← Fields.perhaps bitsTag Element.bits?
  e.fields? do
    let _ ← Fields.next (Element.word? 8)
    let _ ← Fields.next field
    let _ ← Fields.next equation
    let _ ← Fields.next Element.octets?
    let _ ← Fields.next Element.nat?
    let _ ← Fields.perhaps integerTag (Element.word? 8)
    let _ ← Fields.perhaps sequenceTag some
  e.items? sequenceTag

def curveChoice? (e : Element) : Option CurveChoice :=
  if e.tag = oidTag then e.identifier?.map .named
  else if e.tag = nullTag then (if e.isNull then some .implied else none)
  else (domain? e).map .explicit

def isDsaGroup (e : Element) : Bool :=
  match e.each? Element.nat? with
  | some [_, _, _] => true
  | _ => false

def isAgreementGroup (e : Element) : Bool :=
  (e.fields? do
    let _ ← Fields.next Element.nat?
    let _ ← Fields.next Element.nat?
    let _ ← Fields.next Element.nat?
    let _ ← Fields.perhaps integerTag Element.nat?
    let _ ← Fields.perhaps sequenceTag some).isSome

def isPlainGroup (e : Element) : Bool :=
  (e.fields? do
    let _ ← Fields.next Element.nat?
    let _ ← Fields.next Element.nat?
    let _ ← Fields.perhaps integerTag (Element.word? 32)).isSome

def isPasswordCipher (e : Element) : Bool :=
  (e.fields? do
    let _ ← Fields.next fun e => e.octets?.filter fun salt => salt.length == 8
    let _ ← Fields.next (Element.word? 64)).isSome

def isMemoryStretching (e : Element) : Bool :=
  (e.fields? do
    let _ ← Fields.next Element.octets?
    let _ ← Fields.next (Element.word? 64)
    let _ ← Fields.next (Element.word? 64)
    let _ ← Fields.next (Element.word? 64)
    let _ ← Fields.perhaps integerTag (Element.word? 32)).isSome

def isStart (size : Nat) (e : Element) : Bool := e.octets?.any fun start => start.length == size

def isRc2Start (e : Element) : Bool :=
  (e.fields? do
    let _ ← Fields.perhaps integerTag (Element.word? 32)
    let _ ← Fields.next fun e => e.octets?.filter fun start => start.length == 8).isSome

def nullElement : Element := ⟨nullTag, []⟩

/-- A field inside a wrapper that is there only if it differs from its usual value. -/
def unusual {α : Type} [DecidableEq α] (n : Nat) (usual : α) (read : Element → Option α) :
    Fields (Option α) :=
  Fields.wrapped n fun e => (read e).filter (· != usual)

def isSalting (read : Element → Option AlgorithmIdentifier) (e : Element) : Bool :=
  let usualHash : AlgorithmIdentifier := ⟨sha1, some nullElement⟩
  let mask (e : Element) : Option (Bytes × AlgorithmIdentifier) := e.fields? do
    let name ← Fields.next Element.identifier?
    let hash ← Fields.next read
    pure (name, hash)
  (e.fields? do
    let _ ← unusual 0 usualHash read
    let _ ← unusual 1 (maskGeneration, usualHash) mask
    let _ ← unusual 2 20 (Element.word? 16)
    let _ ← Fields.wrapped 3 (Element.word? 8)).isSome

/-- Salt, rounds, size of the key and keyed hash of a key from a password. -/
def isStretching (read : Element → Option AlgorithmIdentifier) (e : Element) : Bool :=
  let usual : AlgorithmIdentifier := ⟨keyedSha1, some nullElement⟩
  (e.fields? do
    let _ ← Fields.next Element.octets?
    let _ ← Fields.next (Element.word? 64)
    let _ ← Fields.perhaps integerTag (Element.word? 64)
    let _ ← Fields.perhaps sequenceTag fun e => (read e).filter (· != usual)).isSome

def isPasswordScheme (read : Element → Option AlgorithmIdentifier) (e : Element) : Bool :=
  (e.fields? do
    let _ ← Fields.next read
    let _ ← Fields.next read).isSome

/-- Whether parameters have the form that goes with a name; `read` reads the names inside them. -/
def isFormed (read : Element → Option AlgorithmIdentifier) (name : Bytes) (p : Option Element) :
    Bool :=
  if nullable.contains name then p.all Element.isNull
  else if bare.contains name then p.isNone
  else if name = saltedRsa then p.all (isSalting read)
  else if name = curve then p.any fun e => (curveChoice? e).isSome
  else if name = dsa then p.any isDsaGroup
  else if name = diffieHellman then p.any isAgreementGroup
  else if name = keyAgreement then p.any isPlainGroup
  else if name = passwordScheme then p.any (isPasswordScheme read)
  else if name = stretching then p.any (isStretching read)
  else if name = memoryStretching then p.any isMemoryStretching
  else if name = aes128 ∨ name = aes192 ∨ name = aes256 then p.any (isStart 16)
  else if name = tripleDes then p.any (isStart 8)
  else if name = rc2 then p.any isRc2Start
  else if name = md5Des ∨ name = shaTripleDes ∨ name = shaRc2 then p.any isPasswordCipher
  else true

def readFrom : Nat → Element → Option AlgorithmIdentifier
  | 0, _ => none
  | depth + 1, e => do
    let (name, p) ← match ← e.items? sequenceTag with
      | [oid] => some (← oid.identifier?, none)
      | [oid, p] => some (← oid.identifier?, some p)
      | _ => none
    if isFormed (readFrom depth) name p then some ⟨name, p⟩ else none

/-- The algorithm that an element names. Every name inside another one takes octets of it. -/
def ofElement? (e : Element) : Option AlgorithmIdentifier := readFrom (e.content.length + 1) e

end AlgorithmIdentifier

end TokenGate
