import TokenGate.Fault
import TokenGate.Json.Reader
import TokenGate.Text.Charset.Named

/-! Outcomes of calls to other services. A call fails, or it is answered with a status and a
body; the body is read in the encoding that the answer tells, or in the one that it shows or looks
like. -/

set_option autoImplicit false

namespace TokenGate

structure Response where
  status : Nat
  body : Bytes
  encoding : Option String
  /-- The encoding that the octets look like, by a guess of others. -/
  guessed : Option String
  deriving Repr

inductive Outcome where
  | failed
  /-- A call that ended in a fault of another kind than calls are expected to. -/
  | broken (kind : Kind)
  | answered (r : Response)
  deriving Repr

abbrev Script := Nat → Outcome

namespace Script

/-- Outcomes in turn; calls beyond the last one fail. -/
def ofList (outcomes : List Outcome) : Script := fun n => outcomes.getD n .failed

end Script

namespace Response

/-- Statuses from 400 to 599 tell of an error, and only those. -/
def isError (r : Response) : Bool := 400 ≤ r.status && r.status < 600

def shown? : Bytes → Option (List Char)
  | 0xff :: 0xfe :: 0 :: 0 :: rest => Wide.strict (Wide.read32 .little rest)
  | 0 :: 0 :: 0xfe :: 0xff :: rest => Wide.strict (Wide.read32 .big rest)
  | 0xef :: 0xbb :: 0xbf :: rest => Utf8.decode? rest
  | 0xff :: 0xfe :: rest => Wide.strict (Wide.read16 .little rest)
  | 0xfe :: 0xff :: rest => Wide.strict (Wide.read16 .big rest)
  | bytes@(a :: b :: c :: d :: _) =>
    match a == 0, b == 0, c == 0, d == 0 with
    | false, false, false, false => Utf8.decode? bytes
    | true, false, true, false => Wide.strict (Wide.read16 .big bytes)
    | false, true, false, true => Wide.strict (Wide.read16 .little bytes)
    | true, true, true, false => Wide.strict (Wide.read32 .big bytes)
    | false, true, true, true => Wide.strict (Wide.read32 .little bytes)
    | _, _, _, _ => none
  | _ => none

/-- The characters in a named encoding, UTF-8 if the name is unknown. Not every name and not every
encoding can be used. -/
def charactersIn (encoding : String) (bytes : Bytes) : Except Charset.Refusal (List CodePoint) :=
  if encoding.toList.contains '\x00' then .error .unreadable
  else match Charset.named? encoding with
    | some charset => charset.read bytes
    | none => .ok ((Utf8.decodeLossy bytes).map .char)

/-- The code points of a text. The encoding that its answer tells counts, or else the guessed
one. -/
def text (r : Response) : Except Charset.Refusal (List CodePoint) :=
  match r.body, r.encoding.or r.guessed with
  | [], _ => .ok []
  | body, some encoding => charactersIn encoding body
  | body, none => .ok ((Utf8.decodeLossy body).map .char)

def points (r : Response) : Except Charset.Refusal (List CodePoint) :=
  let shown := if 3 < r.body.length then shown? r.body else none
  match r.encoding.filter (· ≠ ""), shown with
  | none, some cs => .ok (cs.map .char)
  | _, _ => r.text

inductive Unreadable where
  | characters (cause : Charset.Refusal)
  | content (cause : Json.Error)
  deriving Repr, DecidableEq

def json (r : Response) : Except Unreadable Value :=
  match r.points with
  | .error cause => .error (.characters cause)
  | .ok points => (Json.read Json.plain points).mapError .content

end Response

end TokenGate
