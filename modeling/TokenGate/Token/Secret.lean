import TokenGate.Certificate.Basic
import TokenGate.Json.Encoding
import TokenGate.Stored.PrivateKey
import TokenGate.Stored.ShellKey

/-! Secrets: octets that may be the text of a key of another family. Algorithms with a public key
take such a text for the key in it, and algorithms with a secret do not take it at all. -/

set_option autoImplicit false

namespace TokenGate.Secret

inductive Loaded where
  | forOthers (key : PublicKey)
  | own (key : PrivateKey)
  deriving Repr, DecidableEq

def characters (secret : Bytes) : List Char := Utf8.decodeLossy secret

def publicKey (secret : Bytes) : Except Kind Loaded :=
  (PublicKey.ofText (characters secret)).map .forOthers

def privateKey (secret : Bytes) : Except Kind Loaded :=
  (PrivateKey.ofText (characters secret) none).map .own

def shellKey (secret : Bytes) : Except Kind Loaded := (ShellKey.ofLine secret).map .forOthers

/-- Whether some part of a list, up to its end, meets a condition. -/
def anywhere {α : Type} (p : List α → Bool) : List α → Bool
  | [] => p []
  | a :: rest => p (a :: rest) || anywhere p rest

def contains {α : Type} [BEq α] (part text : List α) : Bool :=
  anywhere (fun rest => part.isPrefixOf rest) text

/-- The key for one of the Edwards curves; marks tell how the text is to be read. -/
def edwards (secret : Bytes) : Except Kind Loaded :=
  match Utf8.decode? secret with
  | none => .error .encoding
  | some cs =>
    if contains "-----BEGIN PUBLIC".toList cs then publicKey secret
    else if contains "-----BEGIN PRIVATE".toList cs then privateKey secret
    else if "ssh-".toList.isPrefixOf cs then shellKey secret
    else .error .invalidKey

/-- An RSA key: a line that begins with its name, or else a private key, or else a public one. -/
def rsa (secret : Bytes) : Except Kind Loaded :=
  let first :=
    if ShellKey.rsaName.isPrefixOf secret then shellKey secret else privateKey secret
  match first with
  | .error .value =>
    match publicKey secret with
    | .error .value | .error .algorithmUnsupported => .error .invalidKey
    | second => second
  | first => first

/-- A key on a curve: a line that begins with its name, or else a public key, or else a private
one. -/
def curve (secret : Bytes) : Except Kind Loaded :=
  let first :=
    if (Utf8.ofString "ecdsa-sha2-").isPrefixOf secret then shellKey secret else publicKey secret
  match first with
  | .error .value => privateKey secret
  | first => first

/-! Secrets that are keys of other families -/

def sectionLabels : List String :=
  ["CERTIFICATE", "TRUSTED CERTIFICATE", "PRIVATE KEY", "PUBLIC KEY", "ENCRYPTED PRIVATE KEY",
   "OPENSSH PRIVATE KEY", "DSA PRIVATE KEY", "RSA PRIVATE KEY", "RSA PUBLIC KEY", "EC PRIVATE KEY",
   "DH PARAMETERS", "NEW CERTIFICATE REQUEST", "CERTIFICATE REQUEST", "SSH2 PUBLIC KEY",
   "SSH2 ENCRYPTED PRIVATE KEY", "X509 CRL"]

def afterPrefix? (part bytes : Bytes) : Option Bytes :=
  if part.isPrefixOf bytes then some (bytes.drop part.length) else none

def afterGap? : Bytes → Option Bytes
  | b :: rest => if b = 0x2d ∨ b = 0x20 then some rest else none
  | [] => none

def afterMark? (words bytes : Bytes) : Option Bytes := do
  let rest ← (afterPrefix? (Utf8.ofString "----") bytes).bind afterGap?
  let rest ← (afterPrefix? words rest).bind afterGap?
  afterPrefix? (Utf8.ofString "----") rest

/-- Whether a secret has a section in it, with one octet between its marks at least. -/
def holdsSection (secret : Bytes) : Bool :=
  sectionLabels.any fun label =>
    let opening := Utf8.ofString ("BEGIN " ++ label)
    let closing := Utf8.ofString ("END " ++ label)
    let hasEnd (rest : Bytes) : Bool :=
      anywhere (fun rest => (afterMark? closing rest).isSome) (rest.drop 1)
    anywhere (fun rest => (afterMark? opening rest).any hasEnd) secret

def holdsShellKey (secret : Bytes) : Bool :=
  ShellKey.kinds.any fun kind => kind.1.isPrefixOf secret

/-- Whether reading octets shows that they are a key or a certificate: they are read, or a password
is missing. -/
def isFormed {α : Type} (read : Except Kind α) : Except Kind Bool :=
  match read with
  | .ok _ | .error .type => .ok true
  | .error .value | .error .algorithmUnsupported => .ok false
  | .error kind => .error kind

def isElement (secret : Bytes) : Except Kind Bool := do
  if ← isFormed (PublicKey.ofDer secret) then .ok true
  else if ← isFormed (PrivateKey.ofDer secret) then .ok true
  else isFormed (Certificate.ofDer secret)

mutual

def mentions (name : Text) : Value → Bool
  | .list items => itemsMention name items
  | .object ms => membersMention name ms
  | _ => false

def itemsMention (name : Text) : List Value → Bool
  | [] => false
  | v :: rest => mentions name v || itemsMention name rest

def membersMention (name : Text) : List (Text × Value) → Bool
  | [] => false
  | (member, v) :: rest => member == name || mentions name v || membersMention name rest

end

def holdsPublishedKey (secret : Bytes) : Except Kind Bool :=
  match Json.readBytes Json.plain secret with
  | .ok v => .ok (mentions "kty" v)
  | .error .tooDeep => .error .recursion
  | .error _ => .ok false

/-- Octets that can serve as a secret: some, and no key of another family. -/
def plain (secret : Bytes) : Except Kind Bytes := do
  if secret.isEmpty ∨ holdsSection secret ∨ holdsShellKey secret then .error .invalidKey
  else if ← isElement secret then .error .invalidKey
  else if ← holdsPublishedKey secret then .error .invalidKey
  else .ok secret

end TokenGate.Secret
