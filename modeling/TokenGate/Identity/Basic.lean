import TokenGate.Certificate.Basic
import TokenGate.Stored.PrivateKey
import TokenGate.Text.Capital
import TokenGate.Text.Utf8

/-! The identity of a connector: its certificate and its private key. The token authority knows
a connector by the pair of key identifiers in the certificate. -/

set_option autoImplicit false

namespace TokenGate

structure Identity where
  certificate : Certificate
  key : PrivateKey
  deriving Repr

namespace Identity

def colonHex : Bytes → List Char
  | [] => []
  | [b] => Bytes.hexPair upper b
  | b :: rest => Bytes.hexPair upper b ++ ':' :: colonHex rest
where
  upper (n : Nat) : Char := Text.capital (Nat.digitChar n)

/-- The name of the pair of a subject's and an authority's key identifier. -/
def name (subject authority : Bytes) : List Char :=
  colonHex subject ++ ":keyid:".toList ++ colonHex authority

def connectorName (i : Identity) : Except Fault String :=
  i.certificate.keyIdentifiers.map fun (s, a) => String.ofList (name s a)

/-- Load an identity from the contents of its two files. The second file is not looked at before
the certificate is read. -/
def ofFiles (certificate key : Except Kind String) (password : Option String) :
    Except Fault Identity := do
  let certificate ← (Certificate.ofText (← opened certificate).toList).mapError .crash
  let password := password.map Utf8.ofString
  let key ← (PrivateKey.ofText (← opened key).toList password).mapError .crash
  .ok ⟨certificate, key⟩
where
  opened (file : Except Kind String) : Except Fault String := file.mapError .crash

end Identity

end TokenGate
