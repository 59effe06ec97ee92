import TokenGate.Rule.Chain
import TokenGate.Text.Blank

/-! Settings of the gate, and how they are read from an environment. A blank value counts as
unset, and blanks around a value do not belong to it. -/

set_option autoImplicit false

namespace TokenGate

abbrev Environment := List (String × String)

structure Config where
  tokenUrl : String
  keyUrl : String
  /-- Name of the key to verify with; none means the first one published. -/
  keyId : Option String
  issuer : Option String
  timeout : Int
  assertionLifetime : Int
  securityProfiles : List String
  certPath : Option String
  keyPath : Option String
  keyPassword : Option String
  deriving Repr

namespace Config

def defaultKeyId : String := "default"

def defaultTimeout : Int := 10

def defaultLifetime : Int := 86400

def isSet (s : Option String) : Bool := s.any (· != "")

def hasIdentity (c : Config) : Bool := isSet c.certPath && isSet c.keyPath

def rules (c : Config) : Chain :=
  [Rule.required ["iss", "sub"], Rule.expiry] ++
    (match c.issuer with
      | some issuer => if issuer = "" then [] else [Rule.issuer issuer]
      | none => []) ++
    (if c.securityProfiles.isEmpty then [] else [Rule.profiles (c.securityProfiles.map .proper)])

/-- A setting without blanks around it, unless nothing is left. -/
def setting? (env : Environment) (name : String) : Option String :=
  match Text.trim ((env.lookup name).getD "").toList with
  | [] => none
  | cs => some (String.ofList cs)

/-- A positive number of seconds, or the default for a text that is none. -/
def seconds (env : Environment) (name : String) (default : Int) : Except Fault Int :=
  match setting? env name with
  | none => .ok default
  | some s =>
    if !s.toList.all Text.isDigit then .ok default
    else match Text.readInt s.toList with
      | .error cause => .error (.numeral cause)
      | .ok n => .ok (if n = 0 then default else n)

/-- The parts between commas that are not blank. -/
def items (cs : List Char) : List String :=
  (((Text.splitAt ',' cs).map Text.trim).filter fun part => !part.isEmpty).map String.ofList

def itemsOf (env : Environment) (name : String) : List String :=
  items ((setting? env name).getD "").toList

def requiredSettings : List String := ["DAPS_TOKEN_URL", "DAPS_KEY_URL"]

def ofEnvironment (env : Environment) : Except Fault Config := do
  let missing := requiredSettings.filter fun name => (setting? env name).isNone
  if !missing.isEmpty then .error (.settingsMissing missing)
  else do
    let timeout ← seconds env "DAPS_HTTP_TIMEOUT_SECONDS" defaultTimeout
    let lifetime ← seconds env "DAPS_ASSERTION_LIFETIME_SECONDS" defaultLifetime
    .ok {
      tokenUrl := (setting? env "DAPS_TOKEN_URL").getD ""
      keyUrl := (setting? env "DAPS_KEY_URL").getD ""
      keyId := some ((setting? env "DAPS_KEY_ID").getD defaultKeyId)
      issuer := setting? env "DAPS_ISSUER"
      timeout := timeout
      assertionLifetime := lifetime
      securityProfiles := itemsOf env "DAPS_SECURITY_PROFILES"
      certPath := setting? env "CONNECTOR_CERT_PATH"
      keyPath := setting? env "CONNECTOR_KEY_PATH"
      keyPassword := setting? env "CONNECTOR_KEY_PASSWORD" }

end Config

end TokenGate
