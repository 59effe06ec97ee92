import TokenGate.Asn1.Characters
import TokenGate.Fault

/-! Names of the holders and issuers of certificates. A name consists of sets of attributes. That it
is well-formed does not say yet that all its values can be shown. -/

set_option autoImplicit false

namespace TokenGate

structure NameAttribute where
  type : Bytes
  value : Der.Element
  deriving Repr, DecidableEq

abbrev DistinguishedName := List (List NameAttribute)

namespace NameAttribute

open Der

/-- Whether a value has the characters that its tag allows, for the tags that are looked at. -/
def isFormed (value : Element) : Bool :=
  if value.tag = printableTag then (printable? value.content).isSome
  else if value.tag = universalTag then (universal? value.content).isSome
  else if value.tag = basicPlaneTag then (basicPlane? value.content).isSome
  else true

def ofElement? (e : Element) : Option NameAttribute := do
  match ← e.items? sequenceTag with
  | [type, value] => if isFormed value then some ⟨← type.identifier?, value⟩ else none
  | _ => none

inductive Shown where
  | text (cs : List Char)
  | bits (bytes : Bytes)
  deriving Repr, DecidableEq

def shownTags : List Nat :=
  [bitsTag, octetsTag, utf8Tag, numericTag, printableTag, teletexTag, asciiTag, shortTimeTag,
   longTimeTag, visibleTag, universalTag, basicPlaneTag]

/-- The one attribute whose value is a string of bits. -/
def uniqueIdentifier : Bytes := identifier [2, 5, 4, 45]

def shown (a : NameAttribute) : Except Kind Shown :=
  let tag := a.value.tag
  let text (cs : Option (List Char)) : Except Kind Shown :=
    match cs with
    | some cs => .ok (.text cs)
    | none => .error .value
  if 256 ≤ tag then .error .value
  else if !shownTags.contains tag then .error .key
  else if tag = bitsTag then
    if a.type = uniqueIdentifier then .ok (.bits a.value.content) else .error .type
  else if tag = universalTag then text (universal? a.value.content)
  else if tag = basicPlaneTag then text (basicPlane? a.value.content)
  else text (Utf8.decode? a.value.content)

end NameAttribute

namespace DistinguishedName

open Der

def set? (tag : Nat) (e : Element) : Option (List NameAttribute) := do
  (← e.members? tag).mapM NameAttribute.ofElement?

def ofElement? (e : Element) : Option DistinguishedName := e.each? (set? setTag)

/-- Show the attributes of a set, of which there is one at least and no two are the same. -/
def readSet (attributes : List NameAttribute) : Except Kind Unit := do
  let shown ← attributes.mapM fun a => a.shown.map fun s => (a.type, s)
  if shown.isEmpty || shown.eraseDups.length != shown.length then .error .value else .ok ()

def read (name : DistinguishedName) : Except Kind Unit := name.forM readSet

end DistinguishedName

end TokenGate
