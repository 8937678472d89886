import DataGateway.Proofs.Fields
import DataGateway.Proofs.Gateway.Action
import DataGateway.Proofs.Offline.Mirror
import DataGateway.Proofs.Setup.Plan
import DataGateway.Proofs.Sql.Reading

/-!
# Adapters from settings

What is wrong with the settings of an adapter comes out before anything has been opened, with one
exception: the table of accounts is looked at when the pool is open, and the pool stays open when its
name is refused. The adapter for everybody stays whatever happens.

* `build_of_plan`, `build_of_lacks` — building follows the plan, or fails at once;
* `kept_create` — the adapter for everybody stays;
* `create_settles` — what comes of all settings and of everything that is asked for.
-/

namespace DataGateway

/-! ## Places -/

theorem Store.kindName_write {store next : Store} {key : String} {v : Value}
    (written : store.write key v = .ok next) : next.kindName = store.kindName := by
  cases store with
  | memory entries =>
      rw [(Store.write_memory_eq_ok_iff.1 written).2]
      rfl
  | directory entries =>
      rcases map_eq_ok_iff.1 written with ⟨entries', _, rfl⟩
      rfl

namespace Offline

theorem fixes_keep_kind (key : String) (v : Value) :
    (Backend.keep key v).Fixes fun backend => backend.store.kindName := by
  intro backend
  rw [keep_eq]
  cases written : backend.store.write key v with
  | error fault => rfl
  | ok store => exact Store.kindName_write written

theorem fixes_seed_kind (moment : Moment) :
    (Backend.seed moment).Fixes fun backend => backend.store.kindName := by
  refine .bind .get fun backend => ?_
  dsimp only
  split
  · refine .bind (.modify fun _ => rfl) fun _ => ?_
    exact .bind .get fun _ => .bind (.ofExcept _) fun _ => fixes_keep_kind _ _
  · exact .pure _

/-- An adapter starts on a store of the same kind. -/
theorem kindName_start? {moment : Moment} {store : Store} {backend : Backend}
    (started : Backend.start? moment store = .ok backend) :
    backend.store.kindName = store.kindName := by
  rcases bind_eq_ok_iff.1 started with ⟨stored, _, seeded⟩
  let plain : Backend := { tables := Backend.tablesOfStored stored, store }
  change (Backend.seed moment plain).1 >>= (fun _ => .ok (Backend.seed moment plain).2) = .ok backend
    at seeded
  rcases bind_eq_ok_iff.1 seeded with ⟨_, _, same⟩
  cases same
  exact fixes_seed_kind moment plain

end Offline

/-! ## Building -/

namespace Setup.Registry

variable {moment : Offline.Moment} {env : Environment} {registry : Registry}

section Unset

variable (moment : Offline.Moment) (registry : Registry)

theorem build_rest_of_unset (unset : env.nonEmpty? "API_BASE_URL" = none) :
    build moment env .rest registry = (.error (.setting .baseUrl), registry) := by
  rw [build, buildRest, unset]
  rfl

theorem build_relational_of_unset (unset : env.nonEmpty? "POSTGRES_DSN" = none) :
    build moment env .relational registry = (.error (.setting .dataSource), registry) := by
  rw [build, buildRelational, unset]
  rfl

/-- Without what it needs an adapter is not built, and nothing has been done. When several things are
missing, the first of them is the fault. -/
theorem build_of_lacks {provider : Provider} {fault : Fault} (lacks : Lacks env provider fault) :
    ∃ first, Lacks env provider first ∧
      build moment env provider registry = (.error first, registry) := by
  -- the settings are read one after the other, so an earlier one may be what is missed
  cases lacks with
  | address unset =>
      refine ⟨_, .address unset, ?_⟩
      rw [build, buildHosted, unset]
      rfl
  | key unset =>
      refine ⟨_, .key unset, ?_⟩
      rw [build, buildHosted, Option.orElse_eq_or, unset]
      cases env.nonEmpty? "SUPABASE_URL" <;> rfl
  | base unset => exact ⟨_, .base unset, build_rest_of_unset moment registry unset⟩
  | timeout failed =>
      cases base : env.nonEmpty? "API_BASE_URL" with
      | none => exact ⟨_, .base base, build_rest_of_unset moment registry base⟩
      | some address =>
          refine ⟨_, .timeout failed, ?_⟩
          rw [build, buildRest, base, failed]
          rfl
  | latency given failed =>
      have asked : latencyOf env = .error fault := by
        simp only [latencyOf, given, failed]
        rfl
      exact ⟨fault, .latency given failed, Action.ofExcept_bind_error asked _ registry⟩
  | source unset => exact ⟨_, .source unset, build_relational_of_unset moment registry unset⟩
  | least failed =>
      cases source : env.nonEmpty? "POSTGRES_DSN" with
      | none => exact ⟨_, .source source, build_relational_of_unset moment registry source⟩
      | some address =>
          refine ⟨_, .least failed, ?_⟩
          rw [build, buildRelational, source, failed]
          rfl
  | most failed =>
      cases source : env.nonEmpty? "POSTGRES_DSN" with
      | none => exact ⟨_, .source source, build_relational_of_unset moment registry source⟩
      | some address =>
          cases least : Environment.wholeOf (env.textOr "POSTGRES_POOL_MIN" "1") with
          | error other =>
              refine ⟨_, .least least, ?_⟩
              rw [build, buildRelational, source, least]
              rfl
          | ok fewest =>
              refine ⟨_, .most failed, ?_⟩
              rw [build, buildRelational, source, least, failed]
              rfl

end Unset

/-- The delay that is asked for. -/
theorem latencyOf_given {text : String} {millis : Int}
    (given : env.nonEmpty? "MOCK_LATENCY_MS" = some text) (whole : Environment.wholeOf text = .ok millis) :
    latencyOf env = ((Binary64.ofQuotient? millis 1000).map Value.float).elim
      (.error (.misuse .quotientTooLarge)) .ok := by
  rw [latencyOf, given]
  -- the quotient must not be computed on the way
  generalize Binary64.ofQuotient? = quotient
  dsimp only
  rw [whole, ok_bind]
  cases quotient millis 1000 <;> rfl

/-- A delay that is too long is found as early. -/
theorem build_of_overflows (moment : Offline.Moment) (registry : Registry) (overflows : Overflows env) :
    build moment env .offline registry = (.error (.misuse .quotientTooLarge), registry) := by
  rcases overflows with ⟨text, millis, given, whole, large⟩
  have asked : latencyOf env = .error (.misuse .quotientTooLarge) := by
    rw [latencyOf_given given whole, large]
    rfl
  exact Action.ofExcept_bind_error asked _ registry

/-- The delay of an offline plan. -/
theorem latencyOf_of_plan {latency : Value} {path? : Option String}
    (said : Says env (.offline latency path?)) :
    latencyOf env = .ok latency ∧ path? = env.nonEmpty? "DAAL_STORAGE_PATH" := by
  cases said with
  | offline unset =>
      refine ⟨?_, rfl⟩
      rw [latencyOf, unset]
      rfl
  | delayed given whole quotient =>
      refine ⟨?_, rfl⟩
      rw [latencyOf_given given whole, quotient]
      rfl

/-- What a place has no part in: the adapters, and what has been opened for them. -/
def holdings (registry : Registry) :
    List Built × Option Nat × List ClientSetting × List Relational.Event :=
  (registry.built, registry.kept, registry.clients, registry.pools)

theorem fixes_demand (resource : Resource) : Action.Fixes holdings (demand resource) := by
  refine .bind .get fun registry => ?_
  cases registry.outage resource with
  | none => exact .pure ()
  | some fault => exact .fail fault

theorem fixes_keep (keeping : Keeping) (store : Store) : Action.Fixes holdings (keep keeping store) := by
  unfold keep
  split
  · exact .bind (.modify fun _ => rfl) fun _ => .pure _
  · exact .pure _
  · exact .pure _

/-- Entries stay at their path. -/
theorem keep_path {keeping : Keeping} {store : Store}
    (same : store.kindName = (registry.storeOf keeping).kindName) :
    ∃ next after, keep keeping store registry = (.ok next, after) ∧ next.path? = keeping.path? := by
  cases keeping with
  | memory entries =>
      cases store with
      | memory entries => exact ⟨_, _, rfl, rfl⟩
      | directory entries => exact ⟨_, _, rfl, rfl⟩
  | directory path =>
      cases store with
      | memory entries => exact absurd (show "InMemoryStorage" = "FileStorage" from same) (by decide)
      | directory entries => exact ⟨_, _, rfl, rfl⟩

/-- A place that is provided is the one that the environment names, with the entries that were there. -/
theorem keepingFor_of_provided {path? : Option String} (asked : env.nonEmpty? "DAAL_STORAGE_PATH" = path?)
    (provided : ∀ path ∈ path?, registry.outage (.directory path) = none) :
    ∃ after, keepingFor env registry = (.ok (.ofPath path?), after) ∧
      after.holdings = registry.holdings ∧
      after.storeOf (.ofPath path?) = registry.storeOf (.ofPath path?) := by
  cases path? with
  | none =>
      refine ⟨registry, ?_, rfl, rfl⟩
      rw [keepingFor, asked]
      rfl
  | some path =>
      have free : demand (.directory path) registry = (.ok (), registry) := by
        rw [demand, Action.bind_get, provided path rfl]
        rfl
      cases present : Fields.has registry.directories path with
      | true =>
          refine ⟨registry, ?_, rfl, rfl⟩
          rw [keepingFor, asked]
          dsimp only
          rw [Action.bind_of_ok free, Action.bind_get, present]
          rfl
      | false =>
          -- a directory that is not there yet has no entries, before and after it is made
          have unknown : Fields.get? registry.directories path = none :=
            Option.not_isSome_iff_eq_none.mp (ne_true_of_eq_false present)
          refine ⟨{ registry with directories := Fields.set registry.directories path (.made path) },
            ?_, rfl, ?_⟩
          · rw [keepingFor, asked]
            dsimp only
            rw [Action.bind_of_ok free, Action.bind_get, present]
            rfl
          · rw [Keeping.ofPath, storeOf, storeOf, Fields.get?_set_self, unknown]
            rfl

/-- Can an offline adapter read the tables at its path, and write those that are missing? -/
def Starts (moment : Offline.Moment) (registry : Registry) : Plan → Prop
  | .offline _ (some path) => ∃ backend,
      Offline.Backend.start? moment (registry.storeOf (.directory path)) = .ok backend
  | _ => True

theorem Starts.exists_start? {latency : Value} {path? : Option String}
    (starts : Starts moment registry (.offline latency path?)) : ∃ backend,
      Offline.Backend.start? moment (registry.storeOf (.ofPath path?)) = .ok backend := by
  cases path? with
  | none => exact ⟨_, (Offline.start?_fresh moment).1⟩
  | some path => exact starts

/-- Is the name of the table of accounts an identifier? -/
def Named : Plan → Prop
  | .relational _ _ _ accounts => ∃ name, Sql.Identifier.ofName accounts = .ok name
  | _ => True

/-- Does the outside provide what a plan needs? -/
def Provides (registry : Registry) (plan : Plan) : Prop :=
  ∀ resource ∈ plan.resource?, registry.outage resource = none

theorem Provides.directory {plan : Plan} {path? : Option String} (provides : Provides registry plan)
    (asked : plan.resource? = path?.map .directory) :
    ∀ path ∈ path?, registry.outage (.directory path) = none := by
  intro path given
  refine provides _ ?_
  rw [asked]
  exact Option.mem_map_of_mem _ given

/-- Building has followed a plan. -/
structure Follows (plan : Plan) (registry after : Registry) : Prop where
  built : after.built = registry.built
  kept : after.kept = registry.kept
  clients : after.clients = registry.clients ++ plan.clients
  pools : after.pools = registry.pools ++ plan.pools

theorem Follows.of_holdings {plan : Plan} {after : Registry} (clients : plan.clients = [])
    (pools : plan.pools = []) (same : after.holdings = registry.holdings) :
    Follows plan registry after := by
  simp only [holdings, Prod.mk.injEq] at same
  rcases same with ⟨built, kept, created, opened⟩
  refine ⟨built, kept, ?_, ?_⟩
  · rw [clients, List.append_nil, created]
  · rw [pools, List.append_nil, opened]

/-- The registry with one more pool. -/
def withPool (registry : Registry) (least most : Int) (source : String) : Registry :=
  { registry with pools := registry.pools ++ [.opened (.int least) (.int most) (.text source)] }

theorem openPool_of_provided {least most : Int} {source : String}
    (provided : registry.outage (.pool least most source) = none) :
    openPool least most source registry = (.ok (), registry.withPool least most source) := by
  refine (Action.bind_of_ok rfl).trans ?_
  rw [Action.bind_get, provided]
  rfl

/-- With its numbers and its pool, all that a relational adapter still needs is a name. -/
theorem buildRelational_of_provided {least most : Int} {source accounts : String}
    (said : Says env (.relational least most source accounts))
    (provided : registry.outage (.pool least most source) = none) :
    buildRelational env registry =
      (Built.relational <$> Sql.Identifier.ofName accounts, registry.withPool least most source) := by
  cases said with
  | relational given fewest largest =>
      rw [buildRelational, given]
      dsimp only
      rw [Action.ofExcept_bind_ok fewest, Action.ofExcept_bind_ok largest,
        Action.bind_of_ok (openPool_of_provided provided)]
      cases Sql.Identifier.ofName (env.textOr "POSTGRES_AUTH_TABLE" "users") <;> rfl

theorem buildHosted_of_provided {client : ClientSetting} {confirmAt : Value}
    (said : Says env (.hosted client confirmAt))
    (provided : registry.outage (.client client) = none) :
    ∃ journal, buildHosted env registry = (.ok (.hosted ⟨confirmAt⟩),
      { registry with clients := registry.clients ++ [client], journal }) := by
  cases said with
  | hosted address given =>
      rename_i url key
      have free : demand (.client ⟨url, key⟩) registry = (.ok (), registry) := by
        rw [demand, Action.bind_get, provided]
        rfl
      rw [buildHosted, Option.orElse_eq_or, address, given]
      dsimp only
      rw [Action.bind_of_ok free]
      cases projectOf? url <;> exact ⟨_, rfl⟩

/-- What has to say something is a base address. -/
theorem exists_base {name base : String} (given : env.nonEmpty? name = some base) :
    ∃ address, Rest.Base.ofValue (.text base) = .ok address := by
  have filled : (base == "") = false := by
    unfold Environment.nonEmpty? at given
    split at given
    · split at given
      · cases given
      · cases given
        exact Bool.eq_false_iff.mpr ‹_›
    · cases given
  rw [Rest.Base.ofValue, filled]
  exact ⟨_, rfl⟩

theorem buildRest_of_provided {base : String} {timeout : Binary64} {path? : Option String}
    (said : Says env (.rest base timeout path?))
    (provided : ∀ path ∈ path?, registry.outage (.directory path) = none) :
    ∃ address after, Rest.Base.ofValue (.text base) = .ok address ∧
      buildRest env registry = (.ok (.rest ⟨address, .float timeout⟩ (.ofPath path?)), after) ∧
      after.holdings = registry.holdings := by
  cases said with
  | rest given seconds =>
      rcases exists_base given with ⟨address, read⟩
      rcases keepingFor_of_provided rfl provided with ⟨after, placed, same, _⟩
      refine ⟨address, after, read, ?_, same⟩
      have opened : Rest.Adapter.open? (.text base) (some (.float timeout)) =
          .ok ⟨address, .float timeout⟩ := by
        rw [Rest.Adapter.open?, read]
        rfl
      rw [buildRest, given]
      dsimp only
      rw [Action.ofExcept_bind_ok seconds, Action.bind_of_ok placed, Action.ofExcept_bind_ok opened]
      rfl

theorem buildOffline_of_provided {latency : Value} {path? : Option String}
    (said : Says env (.offline latency path?))
    (provided : ∀ path ∈ path?, registry.outage (.directory path) = none)
    (starts : Starts moment registry (.offline latency path?)) :
    ∃ keeping after, buildOffline moment env registry = (.ok (.offline latency keeping), after) ∧
      keeping.path? = path? ∧ after.holdings = registry.holdings := by
  rcases latencyOf_of_plan said with ⟨delay, asked⟩
  rcases keepingFor_of_provided asked.symm provided with ⟨middle, placed, same, entries⟩
  rcases starts.exists_start? with ⟨backend, started⟩
  have began : Offline.Backend.start? moment (middle.storeOf (.ofPath path?)) = .ok backend := by
    rw [entries]
    exact started
  have alike := Offline.kindName_start? began
  rcases keep_path alike with ⟨keeping, after, kept, path⟩
  refine ⟨keeping, after, ?_, ?_, ?_⟩
  · rw [buildOffline, Action.ofExcept_bind_ok delay, Action.bind_of_ok placed, Action.bind_get,
      Action.ofExcept_bind_ok began, Action.bind_of_ok kept]
    rfl
  · rw [path, Keeping.path?_ofPath]
  · exact ((fixes_keep _ _).after kept).trans same

/-- The settings say a plan, and what it needs is provided: the plan is followed. -/
theorem build_of_plan {plan : Plan} (said : Says env plan) (provides : Provides registry plan)
    (starts : Starts moment registry plan) (named : Named plan) :
    ∃ built after, build moment env plan.provider registry = (.ok built, after) ∧
      Realizes plan built ∧ Follows plan registry after := by
  cases plan with
  | hosted client confirmAt =>
      rcases buildHosted_of_provided said (provides _ rfl) with ⟨journal, ran⟩
      exact ⟨_, _, ran, .hosted, rfl, rfl, rfl, (List.append_nil _).symm⟩
  | rest base timeout path? =>
      rcases buildRest_of_provided said (provides.directory rfl) with ⟨address, after, read, ran, same⟩
      exact ⟨_, after, ran, .rest_ofPath read, .of_holdings rfl rfl same⟩
  | offline latency path? =>
      rcases buildOffline_of_provided said (provides.directory rfl) starts with ⟨keeping, after, ran, rfl, same⟩
      exact ⟨_, after, ran, .offline, .of_holdings rfl rfl same⟩
  | relational least most source accounts =>
      rcases named with ⟨name, identified⟩
      have ran := buildRelational_of_provided said (provides _ rfl)
      rw [identified] at ran
      cases Sql.Identifier.ofName_eq_ok identified
      exact ⟨_, _, ran, .relational, rfl, rfl, (List.append_nil _).symm, rfl⟩

/-! ## The adapter for everybody -/

section Kept

variable (moment : Offline.Moment) (env : Environment)

theorem kept_demand (resource : Resource) : Action.Fixes kept (demand resource) :=
  (fixes_demand resource).comp (·.2.1)

theorem kept_keepingFor : Action.Fixes kept (keepingFor env) := by
  unfold keepingFor
  split
  · exact .pure _
  · refine .bind (kept_demand _) fun _ => fun registry => ?_
    rw [Action.bind_get]
    cases Fields.has registry.directories _ <;> rfl

theorem kept_openPool (least most : Int) (source : String) :
    Action.Fixes kept (openPool least most source) := by
  refine .bind (.modify fun _ => rfl) fun _ => .bind .get fun _ => ?_
  split
  · exact .fail _
  · exact .pure _

theorem kept_buildHosted : Action.Fixes kept (buildHosted env) := by
  unfold buildHosted
  dsimp only
  split
  · refine .bind (kept_demand _) fun _ => .bind (.modify fun _ => rfl) fun _ => ?_
    split <;> exact .bind (.modify fun _ => rfl) fun _ => .pure _
  · exact .fail _

theorem kept_buildRest : Action.Fixes kept (buildRest env) := by
  unfold buildRest
  split
  · exact .bind (.ofExcept _) fun _ => .bind (kept_keepingFor env) fun _ =>
      .bind (.ofExcept _) fun _ => .pure _
  · exact .fail _

theorem kept_buildOffline : Action.Fixes kept (buildOffline moment env) :=
  .bind (.ofExcept _) fun _ => .bind (kept_keepingFor env) fun _ => .bind .get fun _ =>
    .bind (.ofExcept _) fun _ => .bind ((fixes_keep _ _).comp (·.2.1)) fun _ => .pure _

theorem kept_buildRelational : Action.Fixes kept (buildRelational env) := by
  unfold buildRelational
  split
  · exact .bind (.ofExcept _) fun _ => .bind (.ofExcept _) fun _ => .bind (kept_openPool _ _ _)
      fun _ => .bind (.ofExcept _) fun _ => .pure _
  · exact .fail _

theorem kept_build (provider : Provider) : Action.Fixes kept (build moment env provider) := by
  cases provider with
  | hosted => exact kept_buildHosted env
  | rest => exact kept_buildRest env
  | offline => exact kept_buildOffline moment env
  | relational => exact kept_buildRelational env

/-- Whatever is created, and however that ends, the adapter for everybody stays. -/
theorem kept_create (given : Value) : Action.Fixes kept (create moment env given) :=
  .bind (.ofExcept _) fun provider => .bind (kept_build moment env provider) fun _ _ => rfl

end Kept

/-! ## Creating -/

/-- What is wrong with the name that is asked for, or with the settings of its provider. -/
inductive Misconfigured (env : Environment) (given : Value) : Fault → Prop where
  | unknown {name : String} : Provider.Asked env given name →
      (∀ provider : Provider, provider.name ≠ name) → Misconfigured env given (Provider.unknown name)
  | lacking {provider : Provider} {fault : Fault} : Provider.Asked env given provider.name →
      Lacks env provider fault → Misconfigured env given fault

theorem Misconfigured.label {given : Value} {fault : Fault}
    (misconfigured : Misconfigured env given fault) : fault.label = "ValueError" := by
  cases misconfigured with
  | unknown _ _ => rfl
  | lacking _ lacks => exact lacks.label

/-- What comes of creating an adapter, for everything that is asked for and all settings. -/
structure Settles (moment : Offline.Moment) (env : Environment) (given : Value) (registry : Registry)
    (result : Except Fault Nat) (after : Registry) : Prop where
  /-- The adapter for everybody is as it was. -/
  kept : after.kept = registry.kept
  /-- What is asked for is no provider, or its settings lack something, or they say a plan, unless the
  delay is too long. -/
  sorted : ∀ name, Provider.Asked env given name → (∃ fault, Misconfigured env given fault) ∨
    (∃ plan : Plan, plan.provider.name = name ∧ Says env plan) ∨
      name = Provider.offline.name ∧ Overflows env
  /-- What is wrong is said before anything has been done. -/
  refused : ∀ fault, Misconfigured env given fault → ∃ first, Misconfigured env given first ∧
    first.label = "ValueError" ∧ result = .error first ∧ after = registry
  /-- Otherwise there is one more adapter, of the provider and just as the settings say. -/
  created : ∀ plan : Plan, Provider.Asked env given plan.provider.name → Says env plan →
    Provides registry plan → Starts moment registry plan → Named plan →
    ∃ built, result = .ok registry.built.length ∧ after.built = registry.built ++ [built] ∧
      built.provider = plan.provider ∧ Realizes plan built ∧
      after.clients = registry.clients ++ plan.clients ∧ after.pools = registry.pools ++ plan.pools
  /-- A table of accounts that is no identifier is refused in another class, and the pool stays open. -/
  misnamed : ∀ least most source accounts fault, Provider.Asked env given Provider.relational.name →
    Says env (.relational least most source accounts) →
    registry.outage (.pool least most source) = none → Sql.Identifier.ofName accounts = .error fault →
    fault.label = "ValidationError" ∧ result = .error fault ∧
      after = registry.withPool least most source
  /-- A delay that is too long is refused in time, though in another class. -/
  overlong : Provider.Asked env given Provider.offline.name → Overflows env →
    result = .error (.misuse .quotientTooLarge) ∧ after = registry
  /-- What is no text at all is refused in time as well. -/
  nameless : (∀ name, ¬Provider.Asked env given name) → ∃ fault, result = .error fault ∧
    after = registry ∧ fault.label = Provider.namelessLabel given

section Create

variable {given : Value} {provider : Provider}

theorem create_of_error {fault : Fault} (chosen : Provider.choose env given = .error fault) :
    create moment env given registry = (.error fault, registry) :=
  Action.ofExcept_bind_error chosen _ registry

theorem create_of_failed {fault : Fault} {after : Registry}
    (chosen : Provider.choose env given = .ok provider)
    (failed : build moment env provider registry = (.error fault, after)) :
    create moment env given registry = (.error fault, after) := by
  rw [create, Action.ofExcept_bind_ok chosen, Action.bind_of_error failed]

theorem create_of_built {built : Built} {after : Registry}
    (chosen : Provider.choose env given = .ok provider)
    (ran : build moment env provider registry = (.ok built, after)) :
    ∃ journal, create moment env given registry =
      (.ok after.built.length, { after with built := after.built ++ [built], journal }) := by
  rw [create, Action.ofExcept_bind_ok chosen, Action.bind_of_ok ran]
  exact ⟨_, rfl⟩

theorem create_of_misconfigured {fault : Fault} (misconfigured : Misconfigured env given fault) :
    ∃ first, Misconfigured env given first ∧
      create moment env given registry = (.error first, registry) := by
  cases misconfigured with
  | unknown asked other =>
      exact ⟨_, .unknown asked other, create_of_error (Provider.choose_of_unknown asked other)⟩
  | lacking asked lacks =>
      rcases build_of_lacks moment registry lacks with ⟨first, lacks, failed⟩
      exact ⟨first, .lacking asked lacks, create_of_failed (Provider.choose_of_asked asked) failed⟩

theorem create_of_plan {plan : Plan} (asked : Provider.Asked env given plan.provider.name)
    (said : Says env plan) (provides : Provides registry plan) (starts : Starts moment registry plan)
    (named : Named plan) :
    ∃ built after, create moment env given registry = (.ok registry.built.length, after) ∧
      after.built = registry.built ++ [built] ∧ built.provider = plan.provider ∧ Realizes plan built ∧
      after.clients = registry.clients ++ plan.clients ∧ after.pools = registry.pools ++ plan.pools := by
  rcases build_of_plan said provides starts named with ⟨built, middle, ran, realizes, follows⟩
  rcases create_of_built (Provider.choose_of_asked asked) ran with ⟨journal, created⟩
  rw [follows.built] at created
  exact ⟨built, _, created, rfl, realizes.provider, realizes, follows.clients, follows.pools⟩

theorem create_of_misnamed {least most : Int} {source accounts : String} {fault : Fault}
    (asked : Provider.Asked env given Provider.relational.name)
    (said : Says env (.relational least most source accounts))
    (provided : registry.outage (.pool least most source) = none)
    (refused : Sql.Identifier.ofName accounts = .error fault) :
    create moment env given registry = (.error fault, registry.withPool least most source) := by
  refine create_of_failed (Provider.choose_of_asked asked) ?_
  have ran := buildRelational_of_provided said provided
  rwa [refused] at ran

end Create

/-- Creating an adapter fails before anything is done, as a wrong value, when what is asked for is no
provider or its settings lack something; otherwise it opens what the settings say, and nothing else, for
an adapter of that provider. The exceptions are the table of accounts and the delay. -/
theorem create_settles (moment : Offline.Moment) (env : Environment) (given : Value)
    (registry : Registry) : Settles moment env given registry (create moment env given registry).1
      (create moment env given registry).2 where
  kept := kept_create moment env given registry
  sorted name asked := by
    by_cases known : ∃ provider : Provider, provider.name = name
    · rcases known with ⟨provider, rfl⟩
      rcases plan_or_lacks env provider with ⟨plan, rfl, said⟩ | ⟨fault, lacks⟩ | ⟨rfl, overflows⟩
      · exact .inr (.inl ⟨plan, rfl, said⟩)
      · exact .inl ⟨fault, .lacking asked lacks⟩
      · exact .inr (.inr ⟨rfl, overflows⟩)
    · exact .inl ⟨_, .unknown asked fun provider same => known ⟨provider, same⟩⟩
  refused fault misconfigured := by
    rcases create_of_misconfigured misconfigured with ⟨first, misconfigured, failed⟩
    rw [failed]
    exact ⟨first, misconfigured, misconfigured.label, rfl, rfl⟩
  created plan asked said provides starts named := by
    rcases create_of_plan asked said provides starts named with ⟨built, after, ran, rest⟩
    rw [ran]
    exact ⟨built, rfl, rest⟩
  misnamed least most source accounts fault asked said provided refused := by
    rw [create_of_misnamed asked said provided refused]
    exact ⟨Sql.Identifier.label_of_ofName_eq_error refused, rfl, rfl⟩
  overlong asked overflows := by
    have failed : create moment env given registry = (.error (.misuse .quotientTooLarge), registry) :=
      create_of_failed (Provider.choose_of_asked asked) (build_of_overflows moment registry overflows)
    rw [failed]
    exact ⟨rfl, rfl⟩
  nameless none := by
    rcases Provider.choose_of_nameless none with ⟨fault, chosen, label⟩
    have failed : create moment env given registry = (.error fault, registry) := create_of_error chosen
    rw [failed]
    exact ⟨fault, rfl, rfl, label⟩

/-- The pool is open when the table of accounts is refused, and not as a wrong value. -/
theorem create_leaves_pool : ∃ fault after,
    create {} [("POSTGRES_DSN", "dbname=app"), ("POSTGRES_AUTH_TABLE", "bad table")]
      (.text "postgres") {} = (.error fault, after) ∧
    fault.label = "ValidationError" ∧
    after.pools = [.opened (.int 1) (.int 10) (.text "dbname=app")] :=
  ⟨_, _, rfl, rfl, rfl⟩

end Setup.Registry

end DataGateway
