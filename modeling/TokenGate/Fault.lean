import TokenGate.Value.Basic

/-! What can go wrong. Every fault states its cause; its kind says what a caller can do about
it, and the faults of the gate itself have a text. -/

set_option autoImplicit false

namespace TokenGate

/-- Groups of faults. The first ones are the gate's own; those from `value` on come from
malformed input that the gate does not judge itself. -/
inductive Kind where
  | general
  | configuration
  | transport
  | protocol
  | missingCertExtension
  | dapsConnection
  | emptyResponse
  | keyRetrieval
  | keyNotFound
  | ruleExecution
  | tokenVerification
  | payloadDeserialization
  | value
  | type
  | key
  | index
  | capability
  | overflow
  | recursion
  | runtime
  | notImplemented
  | invalidKey
  | fileNotFound
  | isDirectory
  | notDirectory
  | duplicateExtension
  | certificateVersion
  | nameKind
  | algorithmUnsupported
  | encoding
  /-- Half of a pair stands alone in a text that is to be encoded. -/
  | unencodable
  /-- A part of the gate's own equipment that failed. -/
  | internal
  /-- A kind that a custom rule brings along. -/
  | foreign (name : String)
  deriving Repr, DecidableEq

namespace Kind

def table : List (Kind × String) :=
  [(general, "DapsError"), (configuration, "ConfigurationFault"), (transport, "TransportFault"),
   (protocol, "ProtocolFault"), (missingCertExtension, "MissingCertExtensionError"),
   (dapsConnection, "DapsConnectionError"), (emptyResponse, "EmptyResponseError"),
   (keyRetrieval, "KeyRetrievalError"), (keyNotFound, "KeyNotFoundError"),
   (ruleExecution, "RuleExecutionError"), (tokenVerification, "TokenVerificationError"),
   (payloadDeserialization, "PayloadDeserializationError"), (value, "ValueError"),
   (type, "TypeError"), (key, "KeyError"),
   (index, "IndexError"), (capability, "AttributeError"),
   (overflow, "OverflowError"), (recursion, "RecursionError"),
   (runtime, "RuntimeError"), (notImplemented, "NotImplementedError"),
   (invalidKey, "InvalidKeyError"),
   (fileNotFound, "FileNotFoundError"), (isDirectory, "IsADirectoryError"),
   (notDirectory, "NotADirectoryError"), (duplicateExtension, "DuplicateExtension"),
   (certificateVersion, "InvalidVersion"), (nameKind, "UnsupportedGeneralNameType"),
   (algorithmUnsupported, "UnsupportedAlgorithm"), (encoding, "UnicodeDecodeError"),
   (unencodable, "UnicodeEncodeError"), (internal, "InternalError")]

def name : Kind → String
  | foreign name => name
  | kind => (table.lookup kind).getD ""

def ofName (s : String) : Kind :=
  match table.find? fun entry => entry.2 == s with
  | some (kind, _) => kind
  | none => foreign s

/-- Faults that state their own text to a caller. -/
def isOwn : Kind → Bool
  | general | configuration | transport | protocol | missingCertExtension | dapsConnection
  | emptyResponse | keyRetrieval | keyNotFound | ruleExecution | tokenVerification
  | payloadDeserialization => true
  | _ => false

end Kind

inductive Fault where
  /-- Required settings that are absent or blank. -/
  | settingsMissing (names : List String)
  | numeral (cause : Text.NumeralError)
  /-- An integer with more digits than are written. -/
  | integerUnwritable
  | identityUnset
  | noSubjectKeyIdentifier
  | noAuthorityKeyIdentifier
  | noKeyIdentifier
  | unreachable (endpoint : String)
  | refused (endpoint : String) (status : Nat)
  | tokenAnswerUnreadable
  | tokenMissing
  | keySetUnreachable (url : String)
  | keySetUnreadable
  | keySetShape
  | keyUnusable (kid : Value)
  | keyNotFound (kid : Option Text)
  | expiryNotNumber (typeName : String)
  | profileNotText (typeName : String)
  /-- A rule that raised something else than its own verdict on the claims. -/
  | ruleBroken (rule : String) (kind : Kind)
  | ruleAnswer (rule : String) (typeName : String)
  | foreignKey
  | noKey
  | tokenInvalid
  | signatureInvalid
  | payloadUnreadable (target : String)
  /-- A fault of a custom part, with its text. -/
  | raised (kind : Kind) (text : String)
  /-- Malformed input that no judgement is made of. -/
  | crash (kind : Kind)
  deriving Repr

namespace Fault

def kind : Fault → Kind
  | settingsMissing _ | numeral _ | integerUnwritable | identityUnset => .value
  | noSubjectKeyIdentifier | noAuthorityKeyIdentifier | noKeyIdentifier => .missingCertExtension
  | unreachable _ | refused _ _ => .dapsConnection
  | tokenAnswerUnreadable | tokenMissing => .emptyResponse
  | keySetUnreachable _ | keySetUnreadable | keySetShape | keyUnusable _ => .keyRetrieval
  | keyNotFound _ => .keyNotFound
  | expiryNotNumber _ | profileNotText _ | ruleBroken _ _ | ruleAnswer _ _ => .ruleExecution
  | foreignKey | noKey | tokenInvalid | signatureInvalid => .tokenVerification
  | payloadUnreadable _ => .payloadDeserialization
  | raised kind _ => kind
  | crash kind => kind

def message : Fault → String
  | settingsMissing names => "Missing DAPS settings: " ++ ", ".intercalate names
  | numeral cause => cause.message
  | integerUnwritable =>
    s!"Exceeds the limit ({Text.greatestSize} digits) for integer string conversion; " ++
      "use sys.set_int_max_str_digits() to increase the limit"
  | identityUnset => "CONNECTOR_CERT_PATH and CONNECTOR_KEY_PATH must be set to request DATs"
  | noSubjectKeyIdentifier => "Connector certificate has no SubjectKeyIdentifier"
  | noAuthorityKeyIdentifier => "Connector certificate has no AuthorityKeyIdentifier"
  | noKeyIdentifier => "AuthorityKeyIdentifier carries no key identifier"
  | unreachable endpoint => "Could not reach DAPS at " ++ endpoint
  | refused endpoint status => s!"DAPS at {endpoint} returned status {status}"
  | tokenAnswerUnreadable => "DAPS response is not JSON"
  | tokenMissing => "No access_token in DAPS response"
  | keySetUnreachable url => "Could not fetch key set from " ++ url
  | keySetUnreadable => "DAPS key set response is not JSON"
  | keySetShape => "DAPS key set response is not a JWKS document"
  | keyUnusable kid => "Unusable key kid=" ++ kid.shown
  | keyNotFound kid => "No key with kid=" ++ (Value.ofText? kid).shown ++ " in DAPS key set"
  | expiryNotNumber typeName => "exp claim is not a timestamp: " ++ typeName
  | profileNotText typeName => "securityProfile claim is not a string: " ++ typeName
  | ruleBroken rule kind => s!"Rule {rule} failed to execute: " ++ kind.name
  | ruleAnswer rule typeName => s!"Rule {rule} returned {typeName}, not a result"
  | foreignKey => "DAT signed with unknown key"
  | noKey => "No DAPS key to verify DAT"
  | tokenInvalid => "Invalid DAT"
  | signatureInvalid => "Invalid DAT signature"
  | payloadUnreadable target => "Cannot read payload as " ++ target
  | raised _ text => text
  | crash _ => ""

def usageOpenings : List String :=
  ["Missing DAPS settings", "CONNECTOR_CERT_PATH", "invalid literal for int()",
   s!"Exceeds the limit ({Text.greatestSize} digits)"]

/-- The text that is told to a caller: that of the gate's own faults, and any about settings and
numerals that cannot be used. -/
def told (fault : Fault) : Option String :=
  let isUsage := usageOpenings.any fun opening => opening.toList.isPrefixOf fault.message.toList
  if fault.kind.isOwn || (fault.kind == .value && isUsage) then some fault.message else none

def isKeyRetrieval (fault : Fault) : Bool :=
  fault.kind == .keyRetrieval || fault.kind == .keyNotFound

end Fault

end TokenGate
