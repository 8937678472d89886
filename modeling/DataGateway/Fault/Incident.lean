import DataGateway.Value.Literal

/-!
# Incidents

Failures that a backend raises on its own account: a lost connection, a denied privilege, a rejected
credential. An incident has a class, a text, and possibly attributes with a message, a code and a
status of any kind.
-/

namespace DataGateway

namespace Incident

/-- The classes of incidents. -/
inductive Kind
  | key
  | runtime
  | value
  | general
  | system
  | connection
  | timeout
  | operational
  | programming
  | privilege
  | authorization
  | authApi
  | authRetryable
  | authCredentials
  | client
  deriving DecidableEq

namespace Kind

def label : Kind → String
  | key => "KeyError"
  | runtime => "RuntimeError"
  | value => "ValueError"
  | general => "Exception"
  | system => "OSError"
  | connection => "ConnectionError"
  | timeout => "Timeout"
  | operational => "OperationalError"
  | programming => "ProgrammingError"
  | privilege => "InsufficientPrivilege"
  | authorization => "InvalidAuthorizationSpecification"
  | authApi => "AuthApiError"
  | authRetryable => "AuthRetryableError"
  | authCredentials => "AuthInvalidCredentialsError"
  | client => "ClientError"

/-- A request that got no answer. -/
def isTransport : Kind → Bool
  | connection | timeout => true
  | _ => false

/-- A database that cannot be worked with; a rejected identity is one of these. -/
def isOperational : Kind → Bool
  | operational | authorization => true
  | _ => false

/-- A database that denies access. -/
def isDenial : Kind → Bool
  | privilege | authorization => true
  | _ => false

/-- An account service that rejects the request or the credentials. -/
def isRejection : Kind → Bool
  | authApi | authCredentials => true
  | _ => false

end Kind

end Incident

/-- A failure that a backend raises. -/
structure Incident where
  kind : Incident.Kind
  text : String
  message? : Option Value := none
  code? : Option Value := none
  status? : Option Value := none

namespace Incident

/-- An incident with a message, null for none; the text about a missing key quotes it. -/
def ofMessage (kind : Kind) (message : Value) : Incident :=
  if message.isNull then { kind, text := "" }
  else { kind, text := if kind == .key then message.literal else message.display }

/-- The text, or the name of the class when there is none. -/
def textOrLabel (incident : Incident) : String :=
  if incident.text != "" then incident.text else incident.kind.label

/-- The message attribute when it is a text with content, otherwise the text, otherwise the name of
the class. -/
def wording (incident : Incident) : String :=
  match incident.message? with
  | some (.text s) => if s != "" then s else incident.textOrLabel
  | _ => incident.textOrLabel

end Incident

end DataGateway
