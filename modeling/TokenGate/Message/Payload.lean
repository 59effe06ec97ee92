import TokenGate.Message.Basic
import TokenGate.Message.Scalar
import TokenGate.Json.Reader
import TokenGate.Text.Utf8
import TokenGate.Fault

/-! Payloads are streams of JSON that are read into a wanted shape. The first reading takes the
whole stream, whatever comes of it; a later one finds nothing, and nothing reads as no shape. -/

set_option autoImplicit false

namespace TokenGate

namespace Payload

inductive Content where
  | value (v : Value)
  | inbound (m : InboundMessage)
  /-- An acknowledgement, and whether its sender was given. -/
  | ack (a : MessageAck) (senderGiven : Bool)
  | inbounds (ms : List InboundMessage)
  deriving Repr

inductive Target where
  | inbound
  | ack
  | inbounds
  | dict
  | intDict
  | list
  | intList
  | int
  | float
  | bool
  | text
  | any
  | intOrNull
  | null
  /-- Any further shape, with its name and with what it makes of characters that are JSON. -/
  | other (name : String) (accept? : List Char → Option Content)

def Target.name : Target → String
  | inbound => "InboundMessage"
  | ack => "MessageAck"
  | inbounds => "list"
  | dict => "dict"
  | intDict => "dict"
  | list => "list"
  | intList => "list"
  | int => "int"
  | float => "float"
  | bool => "bool"
  | text => "str"
  | any => "Any"
  | intOrNull => "int | None"
  | null => "NoneType"
  | other name _ => name

def ackOfValue? : Value → Option (MessageAck × Bool)
  | .object ms => do
    let accepted ← (Members.get? ms "accepted").bind Scalar.bool?
    let messageId ← (Members.get? ms "message_id").bind Value.string?
    match Members.get? ms "sender" with
    | none => some (⟨accepted, messageId, none⟩, false)
    | some .null => some (⟨accepted, messageId, none⟩, true)
    | some (.str s) => some (⟨accepted, messageId, some s⟩, true)
    | some _ => none
  | _ => none

/-- Members that are all integers; those that are written again later are no exception. -/
def intMembers? (pairs : List (Text × Value)) : Option Content :=
  (pairs.mapM fun m => (Scalar.int? m.2).map fun n => (m.1, Value.int n)).map fun ms =>
    .value (.object (Members.ofPairs ms))

def shape? (target : Target) (v : Value) : Option Content :=
  match target, v with
  | .inbound, v => (InboundMessage.ofValue? v).map .inbound
  | .ack, v => (ackOfValue? v).map fun (a, given) => .ack a given
  | .inbounds, .list vs => (vs.mapM InboundMessage.ofValue?).map .inbounds
  | .dict, .object ms => some (.value (.object ms))
  | .list, .list vs => some (.value (.list vs))
  | .intList, .list vs => (vs.mapM fun v => (Scalar.int? v).map Value.int).map (.value ∘ .list)
  | .int, v => (Scalar.int? v).map (.value ∘ .int)
  | .float, v => (Scalar.float? v).map (.value ∘ .float)
  | .bool, v => (Scalar.bool? v).map (.value ∘ .bool)
  | .text, .str s => some (.value (.str s))
  | .any, v => some (.value v)
  | .intOrNull, .null => some (.value .null)
  | .intOrNull, v => (Scalar.int? v).map (.value ∘ .int)
  | .null, .null => some (.value .null)
  | _, _ => none

def dialect : Json.Dialect := ⟨200, true, false, true⟩

inductive Stream where
  | text (t : Text)
  | octets (bytes : Bytes)
  deriving Repr

namespace Stream

/-- What is left once a stream was read. -/
def exhausted : Stream → Stream
  | text _ => text ""
  | octets _ => octets []

/-- The characters of a stream; none if there is something else in it. -/
def characters? : Stream → Option (List Char)
  | text t => t.proper?.map String.toList
  | octets bytes => Utf8.decode? bytes

def content? (target : Target) (s : Stream) : Option Content := do
  let cs ← s.characters?
  match target with
  | .intDict => intMembers? (← (Json.readPairs dialect (cs.map .char)).toOption)
  | .other _ accept? => (Json.read dialect (cs.map .char)).toOption.bind fun _ => accept? cs
  | target => shape? target (← (Json.read dialect (cs.map .char)).toOption)

def readAs (target : Target) (s : Stream) : Except Fault Content × Stream :=
  ((match s.content? target with
    | some content => .ok content
    | none => .error (.payloadUnreadable target.name)), s.exhausted)

def readAll : List Target → Stream → List (Except Fault Content)
  | [], _ => []
  | target :: rest, s =>
    let (outcome, s) := s.readAs target
    outcome :: readAll rest s

end Stream

end Payload

end TokenGate
