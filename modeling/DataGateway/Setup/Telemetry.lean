import DataGateway.Gateway.Host
import DataGateway.Setup.Environment

/-!
# Telemetry

Reports to a service that watches operations. Nothing is reported until telemetry has been set up
with a token or a flag; only the first setup counts. A report that fails never disturbs an operation,
but a failing span does.

* `Telemetry.Call` is a call to the service or to the journal's configuration;
* `Telemetry.setup` reads the settings;
* `Telemetry.tracer` watches the operations of an adapter.
-/

namespace DataGateway.Setup

/-- A call to the service, to one of its spans, or to the configuration of the journal. -/
inductive Telemetry.Call
  | configure (token service environment : Value)
  | handler
  | journal (level : String) (handled : Bool)
  | info (message : Value) (fields : Record)
  | error (message : Value) (fields : Record)
  | span (name : Value) (fields : Record)
  | enter
  | setAttribute (name : String) (value : Value)
  | setAttributes (fields : Record)
  | leave

namespace Telemetry.Call

def name : Call → String
  | configure .. => "configure"
  | handler => "LogfireLoggingHandler"
  | journal .. => "basicConfig"
  | info .. => "info"
  | error .. => "error"
  | span .. => "span"
  | enter => "enter"
  | setAttribute .. => "set_attribute"
  | setAttributes _ => "set_attributes"
  | leave => "exit"

/-- The form of a line in the journal. -/
def lineForm : String := "%(asctime)s | %(name)s | %(levelname)s | %(message)s"

def arguments : Call → List Value
  | journal level handled =>
    let handlers := [Value.text "StreamHandler"] ++ if handled then [.text "NullHandler"] else []
    [.text level, .text lineForm, .list handlers]
  | info message _ | error message _ => [message]
  | span name _ => [name]
  | setAttribute name value => [.text name, value]
  | setAttributes fields => [.object fields]
  | configure .. | handler | enter | leave => []

def options : Call → Record
  | configure token service environment =>
    [("token", token), ("service_name", service), ("environment", environment),
     ("send_to_logfire", .text "if-token-present"), ("console", .bool false)]
  | info _ fields | error _ fields | span _ fields => fields
  | _ => []

end Telemetry.Call

/-- The state of telemetry: whether it is on and set up, the calls so far, which of them fail, and
its journal. -/
structure Telemetry where
  enabled : Bool := false
  configured : Bool := false
  calls : List Telemetry.Call := []
  failure : String → Option Fault := fun _ => none
  journal : List LogLine := []

namespace Telemetry

/-- Makes a call, which counts as made even if it fails. -/
def make (call : Call) : Action Telemetry Unit := do
  modify fun telemetry => { telemetry with calls := telemetry.calls ++ [call] }
  match (← get).failure call.name with
  | some fault => Action.fail fault
  | none => return ()

def note (level : Level) (text : String) : Action Telemetry Unit :=
  modify fun telemetry => { telemetry with journal := telemetry.journal ++ [⟨level, text⟩] }

/-- Makes a call if telemetry is on. -/
def makeIfEnabled (call : Call) : Action Telemetry Unit := do
  if (← get).enabled then make call

/-! ## Setup -/

/-- The arguments of the setup, which count before the environment. -/
structure Choice where
  token : Value := .null
  environment : Value := .null
  service : Value := .text "daal"

/-- The names of the arguments of the setup. -/
def Choice.names : List String := ["token", "environment", "service_name"]

/-- The arguments of the setup by their names; no others are known. -/
def Choice.ofFields (fields : Record) : Except Fault Choice :=
  let given (name : String) : Value := (Fields.get? fields name).getD .null
  match (Fields.names fields).find? fun name => !Choice.names.contains name with
  | some name => .error (.misuse (.unknownArgument "setup_logfire" name))
  | none =>
    .ok { token := given "token", environment := given "environment",
          service := (Fields.get? fields "service_name").getD (.text "daal") }

def flagTexts : List String := ["1", "true", "yes"]

/-- Connects to the service. -/
def connect (token environment service : Value) : Action Telemetry Unit := do
  make (.configure token service environment)
  make .handler

/-- Sets telemetry and the journal up, the first time; says whether telemetry is on. -/
def setup (env : Environment) (choice : Choice) : Action Telemetry Bool := do
  let telemetry ← get
  if telemetry.configured then return telemetry.enabled
  let token := choice.token.orElse (env.value "LOGFIRE_TOKEN")
  let flag := flagTexts.contains (Text.lower (env.textOr "LOGFIRE_ENABLED" "false"))
  let environment :=
    choice.environment.orElse (.text (env.textOr "ENVIRONMENT" "development"))
  let mut handled := false
  if token.truthy || flag then
    match ← (connect token environment choice.service).attempt with
    | .ok _ =>
      handled := true
      modify fun telemetry => { telemetry with enabled := true }
    | .error fault =>
      note .warning s!"Logfire setup failed, using standard logging: {fault.message}"
      modify fun telemetry => { telemetry with enabled := false }
  make (.journal (Text.upper (env.textOr "LOG_LEVEL" "INFO")) handled)
  modify fun telemetry => { telemetry with configured := true }
  return (← get).enabled

/-! ## Reports -/

/-- Makes a report, whose failure is only noted. -/
def report (call : Call) : Action Telemetry Unit := do
  if (← get).enabled then
    match ← (make call).attempt with
    | .ok _ => return ()
    | .error _ => note .debug s!"logfire.{call.name} failed"

/-- Refuses fields among which is what a call takes on its own. -/
def requireFree (call taken : String) (fields : Record) : Action Telemetry Unit :=
  if Fields.has fields taken then Action.fail (.misuse (.repeatedArgument call taken))
  else return ()

def info (message : Value) (fields : Record) : Action Telemetry Unit := do
  requireFree "safe_logfire_info" "message" fields
  report (.info message fields)

def error (message : Value) (fields : Record) : Action Telemetry Unit := do
  requireFree "safe_logfire_error" "message" fields
  report (.error message fields)

def openSpan (name : Value) (fields : Record) : Action Telemetry Unit := do
  requireFree "safe_span" "name" fields
  makeIfEnabled (.span name fields)
  makeIfEnabled .enter

/-- Runs a step inside a span. -/
def within {α : Type} (name : Value) (fields : Record) (step : Action Telemetry α) :
    Action Telemetry α := do
  openSpan name fields
  Action.ensuring step (makeIfEnabled .leave)

/-- The name of the part of the journal that is asked for; what counts as false names the whole. -/
def journalName (name : Value) : Except Fault String :=
  if !name.truthy then .ok "root"
  else
    match name with
    | .text s => .ok s
    | _ => .error (.misuse .journalName)

/-- Watches the operations of an adapter. -/
def tracer (adapter : String) : Tracer Telemetry where
  opened operation := openSpan (.text s!"daal.{operation}") [("adapter", .text adapter)]
  outcome success := makeIfEnabled (.setAttribute "success" (.bool success))
  failed message fault :=
    error (.text message) [("error", .text fault.message), ("error_type", .text fault.label)]
  closed := makeIfEnabled .leave

end Telemetry

end DataGateway.Setup
