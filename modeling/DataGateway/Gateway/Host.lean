import DataGateway.Gateway.Action
import DataGateway.Gateway.Response

/-!
# Hosting adapters

The parts that all adapters share: the session, the journal, and the envelope that turns whatever an
operation does into a response.

* `Host` is an adapter at work: its session, its journal and its backend;
* `Profile` says what sets an adapter apart: its name, how it classifies faults, and what it removes
  from its backend when a session ends;
* `Profile.resolve` runs an operation under the envelope.
-/

namespace DataGateway

/-- A session: the token and whom it belongs to. -/
structure Session where
  token : Value
  principal : Value

/-- How urgent a line of the journal is. -/
inductive Level
  | debug
  | info
  | warning
  | error
  deriving DecidableEq

def Level.name : Level → String
  | .debug => "DEBUG"
  | .info => "INFO"
  | .warning => "WARNING"
  | .error => "ERROR"

/-- A line of the journal. -/
structure LogLine where
  level : Level
  text : String
  deriving DecidableEq

/-- An adapter at work. -/
structure Host (β : Type) where
  session : Option Session := none
  journal : List LogLine := []
  backend : β

/-- Watches operations from outside: each callback may act on the backend and may fail. -/
structure Tracer (β : Type) where
  opened : String → Action β Unit
  outcome : Bool → Action β Unit
  failed : String → Fault → Action β Unit
  closed : Action β Unit

/-- Watches nothing. -/
def Tracer.silent {β : Type} : Tracer β where
  opened _ := pure ()
  outcome _ := pure ()
  failed _ _ := pure ()
  closed := pure ()

/-- The classification that adapters refine: a fault outside the gateway's classes is one of the
backend. -/
def Fault.classified (fault : Fault) : Fault :=
  if fault.isClassified then fault else .backend (.reported fault.wording)

/-- What sets an adapter apart. -/
structure Profile (β : Type) where
  name : String
  classify : Fault → Except Fault Fault := fun fault => .ok fault.classified
  forget : Action β Unit := pure ()
  tracer : Tracer β := .silent

namespace Host

variable {β α : Type}

def onBackend (step : Action β α) : Action (Host β) α :=
  Action.onPart Host.backend (fun host backend => { host with backend }) step

def note (level : Level) (text : String) : Action (Host β) Unit :=
  modify fun host => { host with journal := host.journal ++ [⟨level, text⟩] }

/-- The session, which has to be there. -/
def requireSession : Action (Host β) Session := do
  match (← get).session with
  | some session => return session
  | none => Action.fail (.denied .noSession false)

def hasSession : Action (Host β) Bool := do return (← get).session.isSome

def setPrincipal (session : Session) (principal : Value) : Action (Host β) Unit :=
  modify fun host => { host with session := some { session with principal } }

end Host

namespace Profile

variable {β : Type}

def startSession (profile : Profile β) (token principal : Value) : Action (Host β) Unit := do
  modify fun host => { host with session := some ⟨token, principal⟩ }
  Host.note .info s!"{profile.name}: session started"

/-- Ends the session, if there is one, and makes the backend forget it. -/
def endSession (profile : Profile β) : Action (Host β) Unit := do
  if ← Host.hasSession then Host.note .info s!"{profile.name}: session ended"
  modify fun host => { host with session := none }
  Host.onBackend profile.forget

/-- The text that stands for a failure without a wording. -/
def unknownFailure : String := "An unknown database error occurred"

/-- The response to a fault: classifies and reports it, and ends the session if it says so. -/
def settle (profile : Profile β) (operation : String) (fault : Fault) :
    Action (Host β) Response := do
  let fault ← Action.ofExcept (profile.classify fault)
  -- a refusal is no failure of the backend, so nobody is told but the journal
  if fault.isRefusal then
    Host.note .warning s!"{profile.name} {operation} rejected: {fault.message}"
  else
    Host.note .error s!"{profile.name} {operation} failed: {fault.label}: {fault.message}"
    Host.onBackend (profile.tracer.failed s!"{profile.name} {operation} failed" fault)
  if fault.revokes then profile.endSession
  return .failure (if fault.message != "" then fault.message else unknownFailure)

/-- Runs an operation and turns its outcome into a response. -/
def resolve (profile : Profile β) (operation : String) (body : Action (Host β) Value) :
    Action (Host β) Response := do
  Host.onBackend (profile.tracer.opened operation)
  Action.ensuring
    (do
      -- whatever happens in here, the tracer is closed
      match ← body.attempt with
      | .ok data =>
        Host.onBackend (profile.tracer.outcome true)
        return .success data
      | .error fault =>
        Host.onBackend (profile.tracer.outcome false)
        profile.settle operation fault)
    (Host.onBackend profile.tracer.closed)

end Profile

end DataGateway
