import TokenGate.Certificate.Name

/-! Names of many kinds: of hosts, mailboxes, addresses, directories and others. -/

set_option autoImplicit false

namespace TokenGate

inductive GeneralName where
  | other (type : Bytes)
  | mailbox (text : List Char)
  | host (text : List Char)
  | postal
  | directory (name : DistinguishedName)
  | party
  | locator (text : List Char)
  /-- An address, or an address and a mask. -/
  | address (octets : Bytes)
  | registered (name : Bytes)
  deriving Repr, DecidableEq

namespace GeneralName

open Der

def tags : List Nat :=
  [wrapperTag 0, contextTag 1, contextTag 2, wrapperTag 3, wrapperTag 4, wrapperTag 5,
   contextTag 6, contextTag 7, contextTag 8]

def isTag (tag : Nat) : Bool := tags.contains tag

def ofElement? (e : Element) : Option GeneralName :=
  let text := Utf8.decode? e.content
  match tags.idxOf? e.tag with
  | some 0 => do
    match ← elements? e.content with
    | [type, value] =>
      let _ ← (value.contentOf? (wrapperTag 0)).bind single?
      (type.identifier?).map .other
    | _ => none
  | some 1 => text.map .mailbox
  | some 2 => text.map .host
  | some 3 => some .postal
  | some 4 => (single? e.content).bind fun e => (DistinguishedName.ofElement? e).map .directory
  | some 5 => some .party
  | some 6 => text.map .locator
  | some 7 => some (.address e.content)
  | some _ => (e.retag oidTag).identifier?.map .registered
  | none => none

def ofList? (e : Element) : Option (List GeneralName) := e.each? ofElement?

/-- Whether octets are an address and a mask: ones in front, zeros behind, and zeros in the address
where the mask has zeros. -/
def isNetwork (octets : Bytes) : Bool :=
  let half := octets.length / 2
  let base := Bytes.toNat (octets.take half)
  let mask := Bytes.toNat (octets.drop half)
  let gap := Nat.pow 2 (8 * half) - mask
  (octets.length == 8 || octets.length == 32) && gap == Nat.pow 2 gap.log2 && base % gap == 0

def isHost (octets : Bytes) : Bool := octets.length == 4 || octets.length == 16

def read : GeneralName → Except Kind Unit
  | postal | party => .error .nameKind
  | directory name => name.read
  | address octets => if isHost octets || isNetwork octets then .ok () else .error .value
  | _ => .ok ()

def readAll (names : List GeneralName) : Except Kind Unit := names.forM read

end GeneralName

end TokenGate
