import TokenGate.Connector
import TokenGate.Logging
import TokenGate.Service.Gate

/-! The service: how it starts from an environment, and which requests go where. -/

set_option autoImplicit false

namespace TokenGate

structure App where
  /-- Present once the service has started, or if it was given from outside. -/
  validator : Option Validator
  /-- Whether a provider of the connector's own token was built. -/
  hasProvider : Bool

namespace App

inductive Route where
  | health
  | messages
  | page (p : Page)
  deriving Repr, DecidableEq

def Route.path : Route → List Char
  | health => "/health".toList
  | messages => "/messages".toList
  | page .schema => "/openapi.json".toList
  | page .browser => "/docs".toList
  | page .signIn => "/docs/oauth2-redirect".toList
  | page .reference => "/redoc".toList

def Route.methods : Route → List String
  | health => ["GET"]
  | messages => ["POST"]
  | page _ => ["GET", "HEAD"]

def routes : List Route :=
  [.page .schema, .page .browser, .page .signIn, .page .reference, .health, .messages]

/-- A path matches with one line end behind it, too. -/
def matchesPath (path : List Char) (r : Route) : Bool :=
  path == r.path || path == r.path ++ ['\n']

def find? (path : List Char) : Option Route := routes.find? (matchesPath path)

def withoutSlashes (path : List Char) : List Char :=
  (path.reverse.dropWhile (· == '/')).reverse

/-- The reply to a path that no route has; a path with slashes behind it is sent elsewhere. -/
def unrouted (path : List Char) : Reply :=
  if path.getLast? = some '/' ∧ (find? (withoutSlashes path)).isSome then .text 307 ""
  else .detail 404 (.str "Not Found")

def handle (app : App) (now : Value) (r : Request) (m : KeyMemory) : Reply × KeyMemory :=
  match find? r.location with
  | none => (unrouted r.location, m)
  | some route =>
    if !route.methods.contains r.method then (.detail 405 (.str "Method Not Allowed"), m)
    else match route with
      | .page p => (.page p, m)
      | .health => (.render 200 (.object [("status", .str "ok")]), m)
      | .messages =>
        match app.validator with
        | none => (.internalError, m)
        | some v => Gate.receive v now r m

/-- Answer requests one after another, each at its own time. With every reply goes the key
memory that it leaves. -/
def run (app : App) : List (Value × Request) → KeyMemory → List (Reply × KeyMemory)
  | [], _ => []
  | (now, r) :: rest, m => app.handle now r m :: app.run rest (app.handle now r m).2

def dormant (validator : Option Validator) : App := ⟨validator, false⟩

/-- Start from an environment, unless a validator is given. An identity that is configured has
to load. -/
def start (validator : Option Validator) (env : Environment) (file : String → Except Kind String)
    (script : Script) : Except Fault App :=
  match validator with
  | some v => .ok ⟨some v, false⟩
  | none => do
    let config ← Config.ofEnvironment env
    if config.hasIdentity then
      let _ ← config.loadIdentity file
      .ok ⟨some (config.validator script), true⟩
    else .ok ⟨some (config.validator script), false⟩

def levelVariable : String := "ids_log_level"

/-- The level of the log that an environment asks for; the name of the variable may be in any
case of letters, and its last value counts. -/
def level (env : Environment) : Nat :=
  let named := env.filter fun e => String.ofList (Text.smalls e.1.toList) == levelVariable
  match named.getLast? with
  | some e => Logging.level e.2
  | none => Logging.information

end App

end TokenGate
