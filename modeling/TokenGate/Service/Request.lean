import TokenGate.Bytes
import TokenGate.Text.Blank
import TokenGate.Text.Capital
import TokenGate.Text.Utf8
import TokenGate.Value.Basic

/-! Requests to the gate and its replies, and the token that a request carries in its
authorization header. -/

set_option autoImplicit false

namespace TokenGate

structure Request where
  method : String
  path : String
  headers : List (String × String)
  body : Bytes
  deriving Repr

/-- What the framework tells about the routes of a service. -/
inductive Page where
  | schema
  | browser
  | signIn
  | reference
  deriving Repr, DecidableEq

/-- A status with a JSON value or with plain text, or a page of the framework. -/
inductive Reply where
  | json (status : Nat) (v : Value)
  | text (status : Nat) (s : String)
  | page (p : Page)
  deriving Repr

namespace Reply

def internalError : Reply := .text 500 "Internal Server Error"

/-- A value is encoded to be sent. Half of a pair that stands alone has no encoding. -/
def render (status : Nat) (v : Value) : Reply :=
  if v.isProper then .json status v else internalError

def detail (status : Nat) (v : Value) : Reply := render status (.object [("detail", v)])

def unauthorized (v : Value) : Reply := detail 401 v

end Reply

namespace Request

def hexDigit? (c : Char) : Option Nat :=
  if '0' ≤ c ∧ c ≤ '9' then some (c.toNat - 48)
  else if 'a' ≤ c ∧ c ≤ 'f' then some (c.toNat - 87)
  else if 'A' ≤ c ∧ c ≤ 'F' then some (c.toNat - 55)
  else none

def escape? (a b : Char) : Option UInt8 := do
  let high ← hexDigit? a
  let low ← hexDigit? b
  some (UInt8.ofNat (16 * high + low))

/-- The octets of a target; a percent sign without two digits behind it stands for itself. -/
def octets : List Char → Bytes
  | '%' :: a :: b :: rest =>
    match escape? a b with
    | some octet => octet :: octets rest
    | none => Utf8.encodeChar '%' ++ octets (a :: b :: rest)
  | c :: rest => Utf8.encodeChar c ++ octets rest
  | [] => []

def location (r : Request) : List Char :=
  Utf8.decodeLossy (octets (r.path.toList.takeWhile (· != '?')))

/-- The first header with a name, in any case of letters; an empty text if there is none. -/
def header (r : Request) (name : String) : List Char :=
  match r.headers.find? fun h => Text.smalls h.1.toList == Text.smalls name.toList with
  | some h => h.2.toList
  | none => []

/-- The token after the scheme, the first space and any further blanks. -/
def bearer? (header : List Char) : Option (List Char) :=
  match Text.cutFirst ' ' header with
  | none => none
  | some (scheme, rest) =>
    if Text.smalls scheme = "bearer".toList ∧ Text.trim rest ≠ [] then some (Text.trim rest)
    else none

def token? (r : Request) : Option (List Char) := bearer? (r.header "Authorization")

end Request

end TokenGate
