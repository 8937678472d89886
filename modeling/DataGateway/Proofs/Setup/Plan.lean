import DataGateway.Proofs.Except
import DataGateway.Setup.Registry

/-!
# Plans of adapters

The settings of an environment say what an adapter of a provider is to be built from, or they lack
something. Whatever they lack is said to be a wrong value.

* `Provider.Asked` — the name that is asked for, and the provider that is chosen for it;
* `Plan`, `Says` — what an adapter is built from, and the settings that say so;
* `Realizes` — an adapter that is built from just that;
* `Lacks`, `Overflows` — settings that are missing or no numbers, and a delay that is too long;
* `plan_or_lacks` — there is nothing else that settings come to.
-/

namespace DataGateway.Setup

/-! ## Names -/

namespace Provider

variable {env : Environment} {given : Value} {name : String}

/-- The name that is asked for, by the caller or else by the environment. -/
def Asked (env : Environment) (given : Value) (name : String) : Prop :=
  ∃ text, given.orElse (.text (env.textOr "DB_PROVIDER" "supabase")) = .text text ∧
    Text.trim (Text.lower text) = name

theorem ofName?_eq_some_iff {provider : Provider} :
    ofName? name = some provider ↔ provider.name = name := by
  constructor
  · intro found
    have same : (provider.name == name) = true :=
      List.find?_some (p := fun other : Provider => other.name == name) found
    exact eq_of_beq same
  · rintro rfl
    cases provider <;> rfl

theorem choose_of_asked {provider : Provider} (asked : Asked env given provider.name) :
    choose env given = .ok provider := by
  rcases asked with ⟨text, given, same⟩
  have found : ofName? provider.name = some provider := ofName?_eq_some_iff.2 rfl
  simp only [choose, given, same, found]

theorem choose_of_unknown (asked : Asked env given name)
    (other : ∀ provider : Provider, provider.name ≠ name) :
    choose env given = .error (unknown name) := by
  rcases asked with ⟨text, given, same⟩
  have none : ofName? name = none := by
    cases found : ofName? name with
    | none => rfl
    | some provider => exact absurd (ofName?_eq_some_iff.1 found) (other provider)
  simp only [choose, given, same, none]

/-- The class of the failure when what is asked for is no text. -/
def namelessLabel : Value → String
  | .octets _ => "ValueError"
  | _ => "AttributeError"

theorem choose_of_nameless (nameless : ∀ name, ¬Asked env given name) :
    ∃ fault, choose env given = .error fault ∧ fault.label = namelessLabel given := by
  have textual (text : String) :
      given.orElse (.text (env.textOr "DB_PROVIDER" "supabase")) ≠ .text text :=
    fun same => nameless _ ⟨text, same, rfl⟩
  -- what is empty is no matter, since the environment stands in for it
  cases truthy : given.truthy with
  | false => exact absurd (if_neg (ne_true_of_eq_false truthy)) (textual _)
  | true =>
      have itself : given.orElse (.text (env.textOr "DB_PROVIDER" "supabase")) = given :=
        if_pos truthy
      rw [itself] at textual
      rw [choose, itself]
      cases given with
      | text text => exact absurd rfl (textual text)
      | _ => exact ⟨_, rfl, rfl⟩

end Provider

/-! ## Plans -/

/-- What an adapter is to be built from. -/
inductive Plan
  | hosted (client : ClientSetting) (confirmAt : Value)
  | rest (base : String) (timeout : Binary64) (path? : Option String)
  | offline (latency : Value) (path? : Option String)
  | relational (least most : Int) (source accounts : String)

namespace Plan

def provider : Plan → Provider
  | hosted .. => .hosted
  | rest .. => .rest
  | offline .. => .offline
  | relational .. => .relational

/-- What the outside has to provide. -/
def resource? : Plan → Option Resource
  | hosted client _ => some (.client client)
  | rest _ _ path? | offline _ path? => path?.map .directory
  | relational least most source _ => some (.pool least most source)

end Plan

/-- The clients that are created for a plan. -/
def Plan.clients : Plan → List ClientSetting
  | hosted client _ => [client]
  | _ => []

/-- The pools that are opened for a plan. -/
def Plan.pools : Plan → List Relational.Event
  | relational least most source _ => [.opened (.int least) (.int most) (.text source)]
  | _ => []

/-- The place at a path, or in memory. -/
def Keeping.ofPath : Option String → Keeping
  | none => memory []
  | some path => directory path

def Keeping.path? : Keeping → Option String
  | memory _ => none
  | directory path => some path

theorem Keeping.path?_ofPath (path? : Option String) : (ofPath path?).path? = path? := by
  cases path? <;> rfl

/-- The adapter is built from just what the plan says. -/
inductive Realizes : Plan → Built → Prop where
  | hosted {client : ClientSetting} {confirmAt : Value} :
      Realizes (.hosted client confirmAt) (.hosted ⟨confirmAt⟩)
  | rest {base : String} {address : Rest.Base} {timeout : Binary64} {keeping : Keeping} :
      Rest.Base.ofValue (.text base) = .ok address →
      Realizes (.rest base timeout keeping.path?) (.rest ⟨address, .float timeout⟩ keeping)
  | offline {latency : Value} {keeping : Keeping} :
      Realizes (.offline latency keeping.path?) (.offline latency keeping)
  | relational {least most : Int} {source : String} {accounts : Sql.Identifier} :
      Realizes (.relational least most source accounts.text) (.relational accounts)

theorem Realizes.rest_ofPath {base : String} {address : Rest.Base} {timeout : Binary64}
    {path? : Option String} (read : Rest.Base.ofValue (.text base) = .ok address) :
    Realizes (.rest base timeout path?) (.rest ⟨address, .float timeout⟩ (.ofPath path?)) := by
  have realizes : Realizes (.rest base timeout (Keeping.ofPath path?).path?)
      (.rest ⟨address, .float timeout⟩ (.ofPath path?)) := .rest read
  rwa [Keeping.path?_ofPath] at realizes

theorem Realizes.provider {plan : Plan} {built : Built} (realizes : Realizes plan built) :
    built.provider = plan.provider := by
  cases realizes <;> rfl

/-- The settings of an environment say a plan. -/
inductive Says (env : Environment) : Plan → Prop where
  | hosted {url key : String} : env.nonEmpty? "SUPABASE_URL" = some url →
      (env.nonEmpty? "SUPABASE_KEY").or (env.nonEmpty? "SUPABASE_SERVICE_KEY") = some key →
      Says env (.hosted ⟨url, key⟩ (env.value "SITE_URL"))
  | rest {base : String} {timeout : Binary64} : env.nonEmpty? "API_BASE_URL" = some base →
      Environment.fractionOf (env.textOr "API_TIMEOUT" "30") = .ok timeout →
      Says env (.rest base timeout (env.nonEmpty? "DAAL_STORAGE_PATH"))
  | offline : env.nonEmpty? "MOCK_LATENCY_MS" = none →
      Says env (.offline .null (env.nonEmpty? "DAAL_STORAGE_PATH"))
  | delayed {text : String} {millis : Int} {seconds : Binary64} :
      env.nonEmpty? "MOCK_LATENCY_MS" = some text → Environment.wholeOf text = .ok millis →
      Binary64.ofQuotient? millis 1000 = some seconds →
      Says env (.offline (.float seconds) (env.nonEmpty? "DAAL_STORAGE_PATH"))
  | relational {least most : Int} {source : String} : env.nonEmpty? "POSTGRES_DSN" = some source →
      Environment.wholeOf (env.textOr "POSTGRES_POOL_MIN" "1") = .ok least →
      Environment.wholeOf (env.textOr "POSTGRES_POOL_MAX" "10") = .ok most →
      Says env (.relational least most source (env.textOr "POSTGRES_AUTH_TABLE" "users"))

/-- A setting that a provider needs is missing, or it is no number, and the fault that says so. -/
inductive Lacks (env : Environment) : Provider → Fault → Prop where
  | address : env.nonEmpty? "SUPABASE_URL" = none → Lacks env .hosted (.setting .hosted)
  | key : (env.nonEmpty? "SUPABASE_KEY").or (env.nonEmpty? "SUPABASE_SERVICE_KEY") = none →
      Lacks env .hosted (.setting .hosted)
  | base : env.nonEmpty? "API_BASE_URL" = none → Lacks env .rest (.setting .baseUrl)
  | timeout {fault : Fault} :
      Environment.fractionOf (env.textOr "API_TIMEOUT" "30") = .error fault → Lacks env .rest fault
  | latency {text : String} {fault : Fault} : env.nonEmpty? "MOCK_LATENCY_MS" = some text →
      Environment.wholeOf text = .error fault → Lacks env .offline fault
  | source : env.nonEmpty? "POSTGRES_DSN" = none → Lacks env .relational (.setting .dataSource)
  | least {fault : Fault} :
      Environment.wholeOf (env.textOr "POSTGRES_POOL_MIN" "1") = .error fault →
      Lacks env .relational fault
  | most {fault : Fault} :
      Environment.wholeOf (env.textOr "POSTGRES_POOL_MAX" "10") = .error fault →
      Lacks env .relational fault

/-- The delay is a whole number of milliseconds that is too large for seconds. -/
def Overflows (env : Environment) : Prop :=
  ∃ text millis, env.nonEmpty? "MOCK_LATENCY_MS" = some text ∧
    Environment.wholeOf text = .ok millis ∧ Binary64.ofQuotient? millis 1000 = none

theorem label_wholeOf {text : String} {fault : Fault}
    (failed : Environment.wholeOf text = .error fault) : fault.label = "ValueError" := by
  have read : Value.readWhole text.toList (Value.text text).literal = .error fault := failed
  unfold Value.readWhole at read
  split at read
  · cases read
  · cases read
    rfl
  · cases read
    rfl

theorem label_fractionOf {text : String} {fault : Fault}
    (failed : Environment.fractionOf text = .error fault) : fault.label = "ValueError" := by
  unfold Environment.fractionOf at failed
  split at failed
  · cases failed
  · cases failed
    rfl

/-- Whatever is missing or no number is said to be a wrong value. -/
theorem Lacks.label {env : Environment} {provider : Provider} {fault : Fault}
    (lacks : Lacks env provider fault) : fault.label = "ValueError" := by
  cases lacks with
  | address _ | key _ | base _ | source _ => rfl
  | timeout failed => exact label_fractionOf failed
  | latency _ failed | least failed | most failed => exact label_wholeOf failed

/-- Settings say a plan, lack something, or ask for a delay that is too long. -/
theorem plan_or_lacks (env : Environment) (provider : Provider) :
    (∃ plan : Plan, plan.provider = provider ∧ Says env plan) ∨ (∃ fault, Lacks env provider fault) ∨
      provider = .offline ∧ Overflows env := by
  cases provider with
  | hosted =>
      cases address : env.nonEmpty? "SUPABASE_URL" with
      | none => exact .inr (.inl ⟨_, .address address⟩)
      | some url =>
          cases given : (env.nonEmpty? "SUPABASE_KEY").or (env.nonEmpty? "SUPABASE_SERVICE_KEY") with
          | none => exact .inr (.inl ⟨_, .key given⟩)
          | some key => exact .inl ⟨_, rfl, .hosted address given⟩
  | rest =>
      cases base : env.nonEmpty? "API_BASE_URL" with
      | none => exact .inr (.inl ⟨_, .base base⟩)
      | some base' =>
          cases timeout : Environment.fractionOf (env.textOr "API_TIMEOUT" "30") with
          | error fault => exact .inr (.inl ⟨_, .timeout timeout⟩)
          | ok seconds => exact .inl ⟨_, rfl, .rest base timeout⟩
  | offline =>
      cases latency : env.nonEmpty? "MOCK_LATENCY_MS" with
      | none => exact .inl ⟨_, rfl, .offline latency⟩
      | some text =>
          cases whole : Environment.wholeOf text with
          | error fault => exact .inr (.inl ⟨_, .latency latency whole⟩)
          | ok millis =>
              cases quotient : Binary64.ofQuotient? millis 1000 with
              | none => exact .inr (.inr ⟨rfl, text, millis, latency, whole, quotient⟩)
              | some seconds => exact .inl ⟨_, rfl, .delayed latency whole quotient⟩
  | relational =>
      cases source : env.nonEmpty? "POSTGRES_DSN" with
      | none => exact .inr (.inl ⟨_, .source source⟩)
      | some source' =>
          cases least : Environment.wholeOf (env.textOr "POSTGRES_POOL_MIN" "1") with
          | error fault => exact .inr (.inl ⟨_, .least least⟩)
          | ok fewest =>
              cases most : Environment.wholeOf (env.textOr "POSTGRES_POOL_MAX" "10") with
              | error fault => exact .inr (.inl ⟨_, .most most⟩)
              | ok many => exact .inl ⟨_, rfl, .relational source least most⟩

end DataGateway.Setup
