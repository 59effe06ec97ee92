import TokenGate.Base64
import TokenGate.Text.Blank
import TokenGate.Text.Utf8

/-! Signed tokens in compact form: header, payload and signature, each in base64url, with dots
between them. The signature is made over all that stands in front of the last dot. -/

set_option autoImplicit false

namespace TokenGate.Compact

structure Parts where
  /-- What the signature is made over. -/
  signed : List Char
  header : List Char
  payload : List Char
  signature : List Char
  deriving Repr, DecidableEq

/-- Cut at the last dot, and what is in front of it at the first. -/
def parts? (token : List Char) : Option Parts := do
  let (signed, signature) ← Text.cutLast '.' token
  let (header, payload) ← Text.cutFirst '.' signed
  some ⟨signed, header, payload, signature⟩

def segment? (cs : List Char) : Option Bytes := Base64.decode? Base64.urlSafe cs

def segment (bytes : Bytes) : List Char := Base64.encodeBare Base64.urlSafe bytes

def signingInput (header payload : List Char) : List Char :=
  segment (Utf8.encode header) ++ '.' :: segment (Utf8.encode payload)

def withSignature (input : List Char) (signature : Bytes) : List Char :=
  input ++ '.' :: segment signature

end TokenGate.Compact
