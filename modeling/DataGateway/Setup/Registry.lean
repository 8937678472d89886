import DataGateway.Hosted.Adapter
import DataGateway.Offline.Adapter
import DataGateway.Relational.Pool
import DataGateway.Rest.Adapter
import DataGateway.Setup.Environment

/-!
# The registry of adapters

Builds adapters from the settings of an environment and keeps one of them for everybody.

* `Provider` is the kind of an adapter, `Built` an adapter as it was built;
* `Registry.create` builds an adapter for a provider, `Registry.shared` the one for everybody;
* directories outlive the adapters that keep their entries in them.
-/

namespace DataGateway.Setup

/-! ## Providers -/

/-- The kinds of adapters. -/
inductive Provider
  | hosted
  | rest
  | offline
  | relational
  deriving DecidableEq

namespace Provider

def name : Provider → String
  | hosted => "supabase"
  | rest => "http"
  | offline => "mock"
  | relational => "postgres"

/-- All providers, in the order in which messages name them. -/
def all : List Provider := [hosted, rest, offline, relational]

def ofName? (name : String) : Option Provider := all.find? fun provider => provider.name == name

/-- The fault of a name that no provider has. -/
def unknown (name : String) : Fault :=
  .setting (.provider name (", ".intercalate (all.map fun provider => Text.quoted provider.name)))

/-- The provider that is asked for, or else the one of the environment. -/
def choose (env : Environment) (given : Value) : Except Fault Provider :=
  match given.orElse (.text (env.textOr "DB_PROVIDER" "supabase")) with
  | .text asked =>
    let name := Text.trim (Text.lower asked)
    match ofName? name with
    | some provider => .ok provider
    | none => .error (unknown name)
  | .octets asked =>
    let isBlank (octet : UInt8) : Bool := Text.isPlainBlank (Char.ofNat octet.toNat)
    let name := Text.trimBy isBlank (asked.map Text.lowerOctet)
    .error (unknown (Value.octets name).literal)
  | v => .error (.misuse (.noMember v.kindName "lower"))

end Provider

/-! ## Adapters -/

/-- Where an adapter keeps its entries: in memory of its own, or in a directory. -/
inductive Keeping
  | memory (entries : Store.Memory)
  | directory (path : String)

/-- An adapter as it was built. -/
inductive Built
  | hosted (adapter : Hosted.Adapter)
  | rest (adapter : Rest.Adapter) (keeping : Keeping)
  | offline (latency : Value) (keeping : Keeping)
  | relational (accounts : Sql.Identifier)

def Built.provider : Built → Provider
  | hosted _ => .hosted
  | rest .. => .rest
  | offline .. => .offline
  | relational _ => .relational

/-- What a client was created with. -/
structure ClientSetting where
  url : String
  key : String
  deriving DecidableEq

/-- What is asked of the outside while an adapter is built. -/
inductive Resource
  | client (setting : ClientSetting)
  | pool (least most : Int) (source : String)
  | directory (path : String)

/-- The adapters built so far, which of them is for everybody, the directories, what was created and
written down on the way, and what the outside refuses. -/
structure Registry where
  built : List Built := []
  kept : Option Nat := none
  directories : Fields Store.Directory := []
  clients : List ClientSetting := []
  pools : List Relational.Event := []
  journal : List LogLine := []
  outage : Resource → Option Fault := fun _ => none

namespace Registry

abbrev Work (α : Type) := Action Registry α

def note (level : Level) (text : String) : Work Unit :=
  modify fun registry => { registry with journal := registry.journal ++ [⟨level, text⟩] }

/-- Asks the outside for something, which it may refuse. -/
def demand (resource : Resource) : Work Unit := do
  match (← get).outage resource with
  | some fault => Action.fail fault
  | none => return ()

/-! ## Keeping -/

/-- The entries of a place. -/
def storeOf (registry : Registry) : Keeping → Store
  | .memory entries => .memory entries
  | .directory path => .directory ((Fields.get? registry.directories path).getD (.made path))

/-- The place for entries that the environment asks for; a directory is created if need be. -/
def keepingFor (env : Environment) : Work Keeping := do
  match env.nonEmpty? "DAAL_STORAGE_PATH" with
  | none => return .memory []
  | some path =>
    demand (.directory path)
    let registry ← get
    if !Fields.has registry.directories path then
      set { registry with directories := Fields.set registry.directories path (.made path) }
    return .directory path

/-- Writes changed entries back to their place. -/
def keep (keeping : Keeping) (store : Store) : Work Keeping := do
  match keeping, store with
  | .directory path, .directory entries =>
    modify fun registry =>
      { registry with directories := Fields.set registry.directories path entries }
    return .directory path
  | _, .memory entries => return .memory entries
  | keeping, _ => return keeping

/-! ## Building -/

/-- The project in the address of a hosted database, if it has one. -/
def projectOf? (url : String) : Option String :=
  let start := "https://".toList
  if start.isPrefixOf url.toList then
    let rest := url.toList.drop start.length
    let project := rest.takeWhile (· != '.')
    if !project.isEmpty && ".supabase.co".toList.isPrefixOf (rest.dropWhile (· != '.')) then
      some (String.ofList project)
    else none
  else none

def buildHosted (env : Environment) : Work Built := do
  let key? := (env.nonEmpty? "SUPABASE_KEY").orElse fun _ => env.nonEmpty? "SUPABASE_SERVICE_KEY"
  match env.nonEmpty? "SUPABASE_URL", key? with
  | some url, some key =>
    demand (.client ⟨url, key⟩)
    modify fun registry => { registry with clients := registry.clients ++ [⟨url, key⟩] }
    match projectOf? url with
    | some project => note .debug s!"Supabase client initialised (project={project})"
    | none => note .debug "Supabase client initialised (self-hosted)"
    return .hosted ⟨env.value "SITE_URL"⟩
  | _, _ => Action.fail (.setting .hosted)

def buildRest (env : Environment) : Work Built := do
  let some base := env.nonEmpty? "API_BASE_URL" | Action.fail (.setting .baseUrl)
  let timeout ← Action.ofExcept (Environment.fractionOf (env.textOr "API_TIMEOUT" "30"))
  let keeping ← keepingFor env
  let adapter ← Action.ofExcept (Rest.Adapter.open? (.text base) (some (.float timeout)))
  return .rest adapter keeping

/-- The delay in seconds that the environment asks for in milliseconds, null if it does not. -/
def latencyOf (env : Environment) : Except Fault Value := do
  match env.nonEmpty? "MOCK_LATENCY_MS" with
  | none => return .null
  | some text =>
    match Binary64.ofQuotient? (← Environment.wholeOf text) 1000 with
    | some seconds => return .float seconds
    | none => throw (.misuse .quotientTooLarge)

/-- Builds an offline adapter, whose tables are there from then on. -/
def buildOffline (moment : Offline.Moment) (env : Environment) : Work Built := do
  let latency ← Action.ofExcept (latencyOf env)
  let keeping ← keepingFor env
  let backend ← Action.ofExcept (Offline.Backend.start? moment ((← get).storeOf keeping))
  return .offline latency (← keep keeping backend.store)

/-- Opens a pool, unless its driver fails. -/
def openPool (least most : Int) (source : String) : Work Unit := do
  let opened := Relational.Event.opened (.int least) (.int most) (.text source)
  modify fun registry => { registry with pools := registry.pools ++ [opened] }
  match (← get).outage (.pool least most source) with
  | some fault => Action.fail (.setting (.pool fault.message))
  | none => return ()

/-- Builds a relational adapter; its pool is opened before the table of accounts is looked at. -/
def buildRelational (env : Environment) : Work Built := do
  let some source := env.nonEmpty? "POSTGRES_DSN" | Action.fail (.setting .dataSource)
  let least ← Action.ofExcept (Environment.wholeOf (env.textOr "POSTGRES_POOL_MIN" "1"))
  let most ← Action.ofExcept (Environment.wholeOf (env.textOr "POSTGRES_POOL_MAX" "10"))
  openPool least most source
  let accounts ← Action.ofExcept
    (Sql.Identifier.ofName (env.textOr "POSTGRES_AUTH_TABLE" "users"))
  return .relational accounts

def build (moment : Offline.Moment) (env : Environment) : Provider → Work Built
  | .hosted => buildHosted env
  | .rest => buildRest env
  | .offline => buildOffline moment env
  | .relational => buildRelational env

/-! ## Creating -/

/-- Builds an adapter for a provider and answers its number. -/
def create (moment : Offline.Moment) (env : Environment) (given : Value := .null) : Work Nat := do
  let provider ← Action.ofExcept (Provider.choose env given)
  let built ← build moment env provider
  let registry ← get
  set { registry with built := registry.built ++ [built] }
  note .info s!"BackendAdapter initialised (provider={provider.name})"
  return registry.built.length

/-- The adapter for everybody, which is built when it is asked for the first time. -/
def shared (moment : Offline.Moment) (env : Environment) : Work Nat := do
  match (← get).kept with
  | some number => return number
  | none =>
    let number ← create moment env
    modify fun registry => { registry with kept := some number }
    return number

def reset : Work Unit := modify fun registry => { registry with kept := none }

end Registry

end DataGateway.Setup
