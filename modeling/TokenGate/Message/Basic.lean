import TokenGate.Value.Basic

/-! Messages: what another connector sends, and how its receipt is acknowledged. -/

set_option autoImplicit false

namespace TokenGate

structure InboundMessage where
  id : String
  type : String
  /-- Absent, or any value. -/
  payload : Option Value
  /-- All further members. -/
  extras : Members
  deriving Repr

structure MessageAck where
  accepted : Bool
  messageId : String
  sender : Option Text
  deriving Repr, DecidableEq

namespace InboundMessage

/-- The value of a field that goes by a tag or by its name, and which of both it came under. The
tag wins. -/
def tagged? (ms : Members) (tag name : Text) : Option (Text × Value) :=
  match Members.get? ms tag with
  | some v => some (tag, v)
  | none => (Members.get? ms name).map (name, ·)

def ofMembers? (ms : Members) : Option InboundMessage :=
  match tagged? ms "@id" "id", tagged? ms "@type" "type" with
  | some (idName, .str (.proper id)), some (typeName, .str (.proper type)) =>
    let used := [idName, typeName, "payload"]
    some ⟨id, type, Members.get? ms "payload", ms.filter fun m => !used.contains m.1⟩
  | _, _ => none

def ofValue? : Value → Option InboundMessage
  | .object ms => ofMembers? ms
  | _ => none

end InboundMessage

namespace MessageAck

def members (accepted : Bool) (messageId : String) (sender : Value) : Members :=
  [("accepted", .bool accepted), ("message_id", .str messageId), ("sender", sender)]

def toValue (a : MessageAck) : Value :=
  .object (members a.accepted a.messageId (Value.ofText? a.sender))

end MessageAck

end TokenGate
