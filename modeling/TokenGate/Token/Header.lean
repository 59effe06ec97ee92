import TokenGate.Token.Compact
import TokenGate.Json.Encoding

/-! Headers of tokens. A header is read before anything is verified, and only from a token all of
whose parts are well-formed. -/

set_option autoImplicit false

namespace TokenGate.Token

/-- The one extension of headers that is understood: whether the payload is encoded. -/
def encodingName : String := "b64"

/-- Names that a receiver has to understand are a list of texts, not empty, of extensions that
are understood and in the header. -/
def understandsAll (header : Members) : Value → Bool
  | .list items =>
    !items.isEmpty && items.all fun v => v.isText encodingName && Members.has header encodingName
  | _ => false

def isAcceptable (header : Members) : Bool :=
  (match Members.get? header "kid" with
    | none => true
    | some v => v.text?.isSome) &&
  (match Members.get? header "crit" with
    | none => true
    | some v => understandsAll header v)

/-- Whether a header says that the payload is not encoded. -/
def isDetached (header : Members) : Bool :=
  match Members.get? header encodingName with
  | some (.bool false) => true
  | _ => false

structure Unverified where
  header : Members
  signed : List Char
  payload : Bytes
  signature : Bytes
  deriving Repr

def jsonObject? (bytes : Bytes) : Option Members :=
  match Json.readBytes Json.plain bytes with
  | .ok (.object ms) => some ms
  | _ => none

def unverified? (token : List Char) : Option Unverified := do
  let parts ← Compact.parts? token
  let header ← (Compact.segment? parts.header).bind jsonObject?
  let payload ← Compact.segment? parts.payload
  let signature ← Compact.segment? parts.signature
  if !isAcceptable header || (isDetached header && !parts.payload.isEmpty) then none
  else some ⟨header, parts.signed, payload, signature⟩

/-- The name of the key that a token asks for, unless it names none or cannot be read. -/
def keyName? (token : List Char) : Option Text :=
  match (unverified? token).bind fun t => Members.get? t.header "kid" with
  | some (.str s) => if s = .proper "" then none else some s
  | _ => none

end TokenGate.Token
