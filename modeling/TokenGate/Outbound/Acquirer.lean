import TokenGate.Identity.Assertion
import TokenGate.Transport

/-! Asking the authority for a token. A connector sends a signed assertion and is answered with
a token; nothing is tried twice. -/

set_option autoImplicit false

namespace TokenGate

structure TokenRequest where
  endpoint : String
  timeout : Int
  assertion : String
  deriving Repr

namespace TokenRequest

def scope : String := "idsc:IDS_CONNECTOR_ATTRIBUTES_ALL"

def assertionType : String := "urn:ietf:params:oauth:client-assertion-type:jwt-bearer"

def form (r : TokenRequest) : List (String × String) :=
  [("grant_type", "client_credentials"), ("client_assertion_type", assertionType),
   ("client_assertion", r.assertion), ("scope", scope)]

end TokenRequest

structure Acquirer where
  identity : Identity
  timeout : Int
  lifetime : Int

namespace Acquirer

def ofBody : Value → Except Fault Text
  | .object ms =>
    match Members.get? ms "access_token" with
    | some (.str s) => if s = .proper "" then .error .tokenMissing else .ok s
    | _ => .error .tokenMissing
  | _ => .error .tokenMissing

def ofResponse (endpoint : String) (r : Response) : Except Fault Text :=
  if r.isError then .error (.refused endpoint r.status)
  else match r.json with
    | .error (.content .tooDeep) => .error (.crash .recursion)
    | .error (.characters .broken) => .error (.crash .runtime)
    | .error _ => .error .tokenAnswerUnreadable
    | .ok v => ofBody v

def ofOutcome (endpoint : String) : Outcome → Except Fault Text
  | .failed => .error (.unreachable endpoint)
  | .broken kind => .error (.crash kind)
  | .answered r => ofResponse endpoint r

def request (a : Acquirer) (now : Value) (endpoint : String) : Except Fault TokenRequest :=
  (a.identity.assertion now a.lifetime).map fun assertion => ⟨endpoint, a.timeout, assertion⟩

end Acquirer

end TokenGate
