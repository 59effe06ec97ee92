import TokenGate.Inbound.Validator
import TokenGate.Message.Payload
import TokenGate.Service.Request

/-! The gate for messages. A message is read and acknowledged only if the token in front of it
verifies and passes all rules; otherwise its body is not looked at. -/

set_option autoImplicit false

namespace TokenGate.Gate

/-- The reply to a request whose token could not be judged. -/
def refuse (fault : Fault) : Reply :=
  match fault.kind with
  | .tokenVerification => .unauthorized (.str fault.message)
  | .ruleExecution => .unauthorized (.str "DAT could not be evaluated")
  | _ => .internalError

/-- The reply to a request whose token violates rules. -/
def reject (violations : List Text) : Reply :=
  .unauthorized (.object
    [("message", .str "DAT rejected"), ("violations", .list (violations.map .str))])

def judge (v : Validator) (now : Value) (claims : Members) : Except Reply Members :=
  match v.validateClaims now (.object claims) with
  | .error fault => .error (refuse fault)
  | .ok reports =>
    if Report.allPassed reports then .ok claims else .error (reject (Report.violations reports))

def authorize (v : Validator) (now : Value) (r : Request) (m : KeyMemory) :
    Except Reply Members × KeyMemory :=
  match r.token? with
  | none => (.error (.unauthorized (.str "Missing DAT")), m)
  | some token =>
    match v.decodeClaims token m with
    | (.error fault, m) => (.error (refuse fault), m)
    | (.ok claims, m) => (judge v now claims, m)

/-- Acknowledge a message in the name of a sender. Not every value is one. -/
def confirm (message : InboundMessage) (sender : Value) : Reply :=
  match Payload.ackOfValue? (.object (MessageAck.members true message.id sender)) with
  | some (ack, _) => .render 200 ack.toValue
  | none => .internalError

/-- Read the body of a sender that was let in, whose claims name this subject. -/
def acknowledge (subject : Option Value) (body : Bytes) : Reply :=
  match (Payload.Stream.octets body).readAs .inbound with
  | (.ok (.inbound message), _) => confirm message (Value.ofOption subject)
  | (.ok _, _) => .internalError
  | (.error fault, _) => .detail 400 (.str fault.message)

def receive (v : Validator) (now : Value) (r : Request) (m : KeyMemory) : Reply × KeyMemory :=
  match authorize v now r m with
  | (.error reply, m) => (reply, m)
  | (.ok claims, m) => (acknowledge (Members.get? claims "sub") r.body, m)

end TokenGate.Gate
