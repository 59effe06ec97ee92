import TokenGate.Asn1.Der
import TokenGate.Text.Wide

/-! Strings of characters in elements. The tag tells which octets are allowed and what they stand
for. -/

set_option autoImplicit false

namespace TokenGate.Der

def utf8Tag : Nat := 12
def numericTag : Nat := 18
def printableTag : Nat := 19
def teletexTag : Nat := 20
def asciiTag : Nat := 22
def shortTimeTag : Nat := 23
def longTimeTag : Nat := 24
def visibleTag : Nat := 26
def universalTag : Nat := 28
def basicPlaneTag : Nat := 30

def latin (bytes : Bytes) : List Char := bytes.map fun b => Char.ofNat b.toNat

def isPrintable (b : UInt8) : Bool :=
  (0x41 ≤ b && b ≤ 0x5a) || (0x61 ≤ b && b ≤ 0x7a) || (0x30 ≤ b && b ≤ 0x39) ||
    [0x20, 0x27, 0x28, 0x29, 0x2b, 0x2c, 0x2d, 0x2e, 0x2f, 0x3a, 0x3d, 0x3f].contains b

def restricted? (isAllowed : UInt8 → Bool) (bytes : Bytes) : Option (List Char) :=
  if bytes.all isAllowed then some (latin bytes) else none

def printable? (bytes : Bytes) : Option (List Char) := restricted? isPrintable bytes

def ascii? (bytes : Bytes) : Option (List Char) := restricted? (· < 0x80) bytes

def visible? (bytes : Bytes) : Option (List Char) :=
  restricted? (fun b => 0x20 ≤ b && b < 0x7f) bytes

def universal? (bytes : Bytes) : Option (List Char) := Wide.strict (Wide.read32 .big bytes)

def basicPlane? (bytes : Bytes) : Option (List Char) := Wide.strict (Wide.read16 .big bytes)

def Element.ascii? (e : Element) : Option (List Char) :=
  (e.contentOf? asciiTag).bind Der.ascii?

def Element.printable? (e : Element) : Option (List Char) :=
  (e.contentOf? printableTag).bind Der.printable?

def isDisplayTag (tag : Nat) : Bool :=
  [asciiTag, utf8Tag, visibleTag, basicPlaneTag].contains tag

def Element.display? (e : Element) : Option (List Char) :=
  if e.tag = asciiTag then Der.ascii? e.content
  else if e.tag = utf8Tag then Utf8.decode? e.content
  else if e.tag = visibleTag then visible? e.content
  else if e.tag = basicPlaneTag then basicPlane? e.content
  else none

end TokenGate.Der
