import DataGateway.Hosted.Adapter
import DataGateway.Proofs.Except
import DataGateway.Proofs.Filter.Meaning
import DataGateway.Proofs.Gateway.Host
import DataGateway.Proofs.Query.Page
import Mathlib.Data.List.Forall2

/-!
# Meaning of the calls to a hosted database

What the filters among the calls of a request say about a record, and that they say what the filters
of the operation say.

* `Call.Keeps` — a call leaves a record in the answer, as far as the call is a filter;
* `Lowers` — one filter for each condition, in order;
* `query_eq` — the calls of a query, one after another, and how it is sent;
* `Opens` — the calls that an operation begins with, before it says which records it is about;
* `perform_keeps_accepted` — the request of an operation keeps exactly the records that its filters
  accept, and no request is sent without them.
-/

namespace DataGateway

namespace Hosted

open Text

variable {α β : Type}

/-! ## Filters -/

/-- Does a value that is not null stand in a comparison to an operand? -/
def Comparison.Relates (value operand : Value) : Comparison → Prop
  | .eq => operand.isNull = false ∧ value.strictEq operand = true
  | .neq => operand.isNull = false ∧ value.strictEq operand = false
  | .gt => Condition.compares (· == .greater) value operand = true
  | .gte => Condition.compares (fun r => r == .greater || r == .same) value operand = true
  | .lt => Condition.compares (· == .less) value operand = true
  | .lte => Condition.compares (fun r => r == .less || r == .same) value operand = true

namespace Call

/-- Does a call say which records a request is about? -/
def isFilter : Call → Bool
  | compare .. | oneOf .. | isNull _ | like .. | ilike .. => true
  | _ => false

/-- Does a call keep a record? A call that is no filter keeps every record. -/
def Keeps (record : Record) : Call → Prop
  | compare column comparison operand =>
      Filled record column fun value => comparison.Relates value operand
  | oneOf column values =>
      Filled record column fun value => ∃ item ∈ values, value.strictEq item = true
  | isNull column => ∀ value, Fields.get? record column = some value → value.isNull = true
  | like column pattern =>
      Filled record column fun value => LikePattern.Matches pattern.toList value.display.toList
  | ilike column pattern =>
      Filled record column fun value =>
        LikePattern.Matches (foldCase pattern.toList) (foldCase value.display.toList)
  | _ => True

theorem keeps_of_not_isFilter {call : Call} (plain : call.isFilter = false) (record : Record) :
    call.Keeps record := by
  cases call <;> trivial

end Call

/-- Do all calls of a request keep a record? -/
def KeptBy (calls : List Call) (record : Record) : Prop := ∀ call ∈ calls, call.Keeps record

/-- The filter for a condition is a filter, and keeps what the condition holds of. -/
theorem keeps_filterCall {column : String} {condition : Condition} {call : Call}
    (lowers : filterCall column condition = .ok call) :
    call.isFilter = true ∧ ∀ record, call.Keeps record ↔
      condition.holds (Spec.cellOf record column) (Fields.has record column) = true := by
  cases condition with
  | eq operand =>
      cases lowers
      exact ⟨rfl, fun record => filled_iff nofun fun _ some => Condition.holds_eq_iff some⟩
  | neq operand =>
      cases lowers
      exact ⟨rfl, fun record => filled_iff nofun fun _ some => Condition.holds_neq_iff some⟩
  | gt operand | gte operand | lt operand | lte operand =>
      cases lowers
      exact ⟨rfl, fun record => filled_iff nofun fun _ _ => Iff.rfl⟩
  | like pattern =>
      cases lowers
      exact ⟨rfl, fun record => filled_iff nofun fun _ some => Condition.holds_like_iff some⟩
  | ilike pattern =>
      cases lowers
      exact ⟨rfl, fun record => filled_iff nofun fun _ some => Condition.holds_ilike_iff some⟩
  | oneOf values =>
      cases lowers
      exact ⟨rfl, fun record => filled_iff nofun fun _ some => Condition.holds_oneOf_iff some⟩
  | isNull =>
      cases lowers
      exact ⟨rfl, fun record => holds_isNull_iff.symm⟩
  | unspecified => cases lowers

/-! ## The filters of a specification -/

/-- One filter for each condition of a specification, in order. -/
def Lowers (spec : Spec) (calls : List Call) : Prop :=
  List.Forall₂ (fun entry call => filterCall entry.1 entry.2 = .ok call) spec calls

/-- Conditions that can be tested all have filters. -/
theorem exists_lowers {spec : Spec} (concrete : spec.IsConcrete) : ∃ calls, Lowers spec calls := by
  induction spec with
  | nil => exact ⟨[], .nil⟩
  | cons entry spec ih =>
      rcases entry with ⟨column, condition⟩
      have testable : condition.IsConcrete := concrete _ (List.mem_cons_self ..)
      rcases ih fun e he => concrete e (List.mem_cons_of_mem _ he) with ⟨calls, lowers⟩
      cases filter : filterCall column condition with
      | ok call => exact ⟨call :: calls, .cons filter lowers⟩
      | error fault =>
          cases condition with
          | unspecified => exact testable.elim
          | _ => cases filter

section Lowers

variable {spec : Spec} {calls : List Call} (lowers : Lowers spec calls)

include lowers

theorem Lowers.isFilter : ∀ call ∈ calls, call.isFilter = true := by
  induction lowers with
  | nil => nofun
  | cons first _ ih => exact List.forall_mem_cons.2 ⟨(keeps_filterCall first).1, ih⟩

/-- The filters of a specification together keep what it selects. -/
theorem Lowers.keptBy_iff (record : Record) :
    KeptBy calls record ↔ spec.selects record = true := by
  induction lowers with
  | nil => exact iff_of_true nofun rfl
  | @cons entry call spec calls first _ ih =>
      rw [KeptBy, List.forall_mem_cons, (keeps_filterCall first).2 record, ← KeptBy, ih,
        Spec.selects_cons, Bool.and_eq_true]

end Lowers

/-! ## Steps and their calls -/

/-- However the step ends, the client has got these calls more. -/
def Asks (step : Work α) (calls : List Call) : Prop :=
  ∀ host, (step host).2.backend.asked = host.backend.asked ++ calls

/-- The step ends well, and the client has got these calls more. -/
def Chains (step : Work α) (calls : List Call) : Prop :=
  ∀ host, ∃ a after, step host = (.ok a, after) ∧
    after.backend.asked = host.backend.asked ++ calls

/-- The step says nothing to the client. -/
abbrev Quiet (step : Work α) : Prop := FixesBackend (fun client : Client => client.asked) step

/-- A host whose client has got calls more. -/
def recorded (calls : List Call) (host : Host Client) : Host Client :=
  { host with backend := { host.backend with asked := host.backend.asked ++ calls } }

/-- The step makes these calls and does nothing else. -/
def Records (step : Work Unit) (calls : List Call) : Prop :=
  ∀ host, step host = (.ok (), recorded calls host)

theorem recorded_nil (host : Host Client) : recorded [] host = host := by
  rw [recorded, List.append_nil]

theorem recorded_recorded (first calls : List Call) (host : Host Client) :
    recorded calls (recorded first host) = recorded (first ++ calls) host := by
  simp only [recorded, List.append_assoc]

theorem records_chain (call : Call) : Records (chain call) [call] := fun _ => rfl

theorem records_pure : Records (pure ()) [] := fun host => by rw [recorded_nil]; rfl

theorem Records.then {step : Work Unit} {calls : List Call} (records : Records step calls)
    (next : Unit → Work α) (host : Host Client) :
    (step >>= next) host = next () (recorded calls host) := Action.bind_of_ok (records host)

theorem Records.bind {step : Work Unit} {next : Unit → Work Unit} {first calls : List Call}
    (records : Records step first) (more : Records (next ()) calls) :
    Records (step >>= next) (first ++ calls) := by
  intro host
  rw [records.then, more, recorded_recorded]

theorem Records.given {result : Except Fault α} {a : α} {f : α → Work Unit} {calls : List Call}
    (given : result = .ok a) (next : Records (f a) calls) :
    Records (Action.ofExcept result >>= f) calls := by
  intro host
  rw [Action.ofExcept_bind_ok given]
  exact next host

theorem Records.chains {step : Work Unit} {calls : List Call} (records : Records step calls) :
    Chains step calls := fun host => ⟨(), recorded calls host, records host, rfl⟩

theorem chains_chain (call : Call) : Chains (chain call) [call] := (records_chain call).chains

theorem asks_send (call : Call) : Asks (send call) [call] := fun _ => rfl

section Bind

variable {x : Work α} {f : α → Work β} {first calls : List Call}

theorem Chains.asks (chains : Chains x first) (next : ∀ a, Asks (f a) calls) :
    Asks (x >>= f) (first ++ calls) := by
  intro host
  rcases chains host with ⟨a, middle, ran, asked⟩
  rw [Action.bind_of_ok ran, next a middle, asked, List.append_assoc]

theorem Asks.quiet (asks : Asks x calls) (next : ∀ a, Quiet (f a)) : Asks (x >>= f) calls := by
  intro host
  rcases ran : x host with ⟨result, middle⟩
  have asked := asks host
  rw [ran] at asked
  cases result with
  | error fault =>
      rw [Action.bind_of_error ran]
      exact asked
  | ok a =>
      rw [Action.bind_of_ok ran]
      exact (next a middle).trans asked

/-- What is taken over says nothing. -/
theorem Asks.given {result : Except Fault α} {a : α} (given : result = .ok a)
    (next : Asks (f a) calls) : Asks (Action.ofExcept result >>= f) calls := by
  intro host
  rw [Action.ofExcept_bind_ok given]
  exact next host

theorem Asks.refused {result : Except Fault α} {fault : Fault} (refused : result = .error fault) :
    Asks (Action.ofExcept result >>= f) [] := by
  intro host
  rw [Action.ofExcept_bind_error refused, List.append_nil]

end Bind

/-! ## Parts of requests -/

theorem records_filter {spec : Spec} {calls : List Call} (lowers : Lowers spec calls) :
    Records (filter spec) calls := by
  induction lowers with
  | nil => exact records_pure
  | @cons entry call spec calls first _ ih =>
      rcases entry with ⟨column, condition⟩
      intro host
      have step : Client.filter ((column, condition) :: spec) host.backend =
          Client.filter spec (recorded [call] host).backend :=
        Action.ofExcept_bind_ok first _ host.backend
      have rest := ih (recorded [call] host)
      rw [recorded_recorded, filter, Host.onBackend_apply, ← step] at rest
      exact rest

theorem asks_sendForRows : Asks sendForRows [.execute] :=
  (asks_send .execute).quiet fun _ => .bind (.ofExcept _) fun _ => .pure _

theorem asks_sendForSingle : Asks sendForSingle [.maybeSingle, .execute] :=
  (chains_chain .maybeSingle).asks fun _ => asks_send .execute

theorem records_selecting {columns : Value} {selection : Selection} {spec : Spec} {calls : List Call}
    (table : Value) (selected : Selection.ofValue columns = .ok selection)
    (lowers : Lowers spec calls) :
    Records (selecting table columns spec)
      ([.table table, .select selection.clause] ++ calls) :=
  (records_chain (.table table)).bind <| .given selected <|
    (records_chain (.select selection.clause)).bind <| records_filter lowers

/-- Of a selection that cannot be read only the table is known. -/
theorem asks_selecting {columns : Value} {fault : Fault} {f : Unit → Work α} (table : Value)
    (spec : Spec) (unread : Selection.ofValue columns = .error fault) :
    Asks (selecting table columns spec >>= f) [.table table] := by
  have stopped : Asks (do
      chain (.table table)
      let selection ← Action.ofExcept (Selection.ofValue columns)
      chain (.select selection.clause)
      filter spec
      f ()) [.table table] :=
    (chains_chain (.table table)).asks fun _ => Asks.refused unread
  unfold selecting
  simpa only [bind_assoc] using stopped

/-! ## Queries -/

/-- Does a call neither filter nor send? -/
def Call.IsPlain (call : Call) : Prop := call.isFilter = false ∧ call ≠ .execute

/-- The calls for an order. -/
def orderCalls (ordering : Option Query.Ordering) : List Call :=
  (ordering.map fun ordering => Call.order ordering.column (!ordering.ascending.truthy)).toList

theorem isPlain_orderCalls (ordering : Option Query.Ordering) :
    ∀ call ∈ orderCalls ordering, call.IsPlain := by
  cases ordering with
  | none => nofun
  | some ordering => exact List.forall_mem_singleton.2 ⟨rfl, nofun⟩

/-- The calls for a page. -/
def pageCalls (limit offset : Option Query.Bound) : List Call :=
  match offset.filter fun bound => bound.toInt != 0 with
  | some offset =>
    [.range offset (offset.toInt + (limit.map Query.Bound.toInt).getD defaultSize - 1)]
  | none => (limit.map Call.limit).toList

theorem isPlain_pageCalls (limit offset : Option Query.Bound) :
    ∀ call ∈ pageCalls limit offset, call.IsPlain := by
  unfold pageCalls
  split
  · exact List.forall_mem_singleton.2 ⟨rfl, nofun⟩
  · cases limit with
    | none => nofun
    | some size => exact List.forall_mem_singleton.2 ⟨rfl, nofun⟩

theorem records_paging (limit offset : Option Query.Bound) :
    Records (paging limit offset) (pageCalls limit offset) := by
  cases offset with
  | none =>
      cases limit with
      | none => exact records_pure
      | some size => exact records_chain _
  | some offset =>
      by_cases zero : offset.toInt = 0
      · cases limit with
        | none => simpa [paging, pageCalls, Option.filter, zero] using records_pure
        | some size => simpa [paging, pageCalls, Option.filter, zero] using records_chain (.limit size)
      · simpa [paging, pageCalls, Option.filter, zero] using records_chain _

/-- The calls of a query up to its page. -/
def queryCalls (table : Value) (selection : Selection) (filters : List Call)
    (ordering : Option Query.Ordering) (limit offset : Option Query.Bound) : List Call :=
  [.table table, .select selection.clause] ++ filters ++ orderCalls ordering ++ pageCalls limit offset

/-- The call that asks for one row at most, if one is wanted. -/
def singleCalls (single : Bool) : List Call := if single then [.maybeSingle] else []

theorem isPlain_singleCalls (single : Bool) : ∀ call ∈ singleCalls single, call.IsPlain := by
  cases single with
  | false => nofun
  | true => exact List.forall_mem_singleton.2 ⟨rfl, nofun⟩

/-- What a query sends when its request has been built. -/
def sending (single : Bool) : Work Value := do
  if single then
    match ← sendForSingle with
    | .nothing => return .null
    | reply => Action.ofExcept (reply.read "data")
  else sendForRows

theorem asks_sending (single : Bool) : Asks (sending single) (singleCalls single ++ [.execute]) := by
  cases single with
  | false => exact asks_sendForRows
  | true =>
      refine asks_sendForSingle.quiet fun reply => ?_
      cases reply with
      | nothing => exact .pure _
      | attributes fields => exact .ofExcept _

/-- Where one row is wanted, one is the limit, whatever the limit is. -/
def wantedLimit (single : Bool) (limit : Option Query.Bound) : Option Query.Bound :=
  if single then some (.number 1) else limit

/-- The request of a query. -/
def requestCalls (table : Value) (selection : Selection) (filters : List Call) (options : Query.Options)
    (checked : Query.Checked) : List Call :=
  queryCalls table selection filters options.ordering
      (wantedLimit options.single.truthy checked.limit) checked.offset ++
    (singleCalls options.single.truthy ++ [.execute])

section Query

variable {table : Value} {options : Query.Options} {checked : Query.Checked} {selection : Selection}
  {filters : List Call} (valid : options.check = .ok checked)
  (selected : Selection.ofValue options.select = .ok selection)
  (lowers : Lowers checked.spec filters)

include valid selected lowers

/-- A query builds its request and sends it. -/
theorem query_eq (host : Host Client) : query table options host =
    sending options.single.truthy (recorded
      (queryCalls table selection filters options.ordering
        (wantedLimit options.single.truthy checked.limit) checked.offset) host) := by
  unfold query
  rw [Action.ofExcept_bind_ok valid, (records_selecting table selected lowers).then]
  cases ordered : options.ordering with
  | none =>
      refine ((records_paging _ _).then _ _).trans ?_
      rw [recorded_recorded, queryCalls, orderCalls, Option.map_none, Option.toList_none, List.append_nil]
      rfl
  | some ordering =>
      refine ((records_chain _).then _ _).trans (((records_paging _ _).then _ _).trans ?_)
      rw [recorded_recorded, recorded_recorded, ← List.append_assoc]
      rfl

theorem asks_query : Asks (query table options)
    (requestCalls table selection filters options checked) := by
  intro host
  rw [query_eq valid selected lowers, asks_sending]
  exact List.append_assoc ..

end Query

end Hosted

/-! ## Requests -/

/-- The filters of an operation that is about some records of a table. -/
def Operation.filters? : Operation → Option Filters
  | .select _ _ filters | .selectOne _ _ filters | .count _ filters => some filters
  | .query _ options => some options.filters
  | .update _ filters _ | .delete _ filters => some filters
  | _ => none

namespace Hosted

/-- The calls that an operation begins with, before it says which records it is about. An operation
whose columns or page cannot be read has none. -/
inductive Opens : Operation → List Call → Prop
  | select {table columns : Value} {filters : Filters} {selection : Selection} :
      Selection.ofValue columns = .ok selection →
      Opens (.select table columns filters) [.table table, .select selection.clause]
  | selectOne {table columns : Value} {filters : Filters} {selection : Selection} :
      Selection.ofValue columns = .ok selection →
      Opens (.selectOne table columns filters) [.table table, .select selection.clause]
  | query {table : Value} {options : Query.Options} {checked : Query.Checked}
      {selection : Selection} : options.check = .ok checked →
      Selection.ofValue options.select = .ok selection →
      Opens (.query table options) [.table table, .select selection.clause]
  | count {table : Value} {filters : Filters} :
      Opens (.count table filters) [.table table, .selectCount]
  | update {table patch : Value} {filters : Filters} :
      Opens (.update table filters patch) [.table table, .update patch]
  | delete {table : Value} {filters : Filters} : Opens (.delete table filters) [.table table, .delete]

theorem Opens.isPlain {operation : Operation} {opening : List Call}
    (opens : Opens operation opening) : ∀ call ∈ opening, call.IsPlain := by
  have both {first second : Call} (one : first.IsPlain) (other : second.IsPlain) :
      ∀ call ∈ [first, second], call.IsPlain :=
    List.forall_mem_cons.2 ⟨one, List.forall_mem_singleton.2 other⟩
  cases opens <;> exact both ⟨rfl, nofun⟩ ⟨rfl, nofun⟩

section Body

variable (adapter : Adapter) {operation : Operation} {filters : Filters} {spec : Spec}
  (filtered : operation.filters? = some filters) (parsed : filters.parse = .ok spec)

include filtered parsed

/-- An operation that can begin says its filters next, then its page, and then sends its request. -/
theorem asks_body {opening filtering : List Call} (opens : Opens operation opening)
    (lowers : Lowers spec filtering) : ∃ page, (∀ call ∈ page, call.IsPlain) ∧
      Asks (adapter.body operation) (opening ++ filtering ++ (page ++ [.execute])) := by
  cases opens with
  | @select table _ _ _ selected =>
      cases filtered
      refine ⟨[], nofun, .given parsed ?_⟩
      exact (records_selecting table selected lowers).chains.asks fun _ => asks_sendForRows
  | @selectOne table _ _ _ selected =>
      cases filtered
      refine ⟨[.limit (.number 1), .maybeSingle], ?_, .given parsed ?_⟩
      · exact List.forall_mem_cons.2 ⟨⟨rfl, nofun⟩, List.forall_mem_singleton.2 ⟨rfl, nofun⟩⟩
      · refine (records_selecting table selected lowers).chains.asks fun _ => ?_
        refine (chains_chain (.limit (.number 1))).asks fun _ => asks_sendForSingle.quiet fun reply => ?_
        cases reply with
        | nothing => exact .pure _
        | attributes fields => exact .bind (.ofExcept _) fun _ => .pure _
  | @query table options checked _ read selected =>
      cases filtered
      have same : checked.spec = spec :=
        Except.ok.inj ((Query.Options.parse_of_check read).symm.trans parsed)
      subst same
      have asks : Asks (adapter.body (.query table options)) _ := asks_query read selected lowers
      refine ⟨orderCalls options.ordering ++ pageCalls (wantedLimit options.single.truthy checked.limit)
        checked.offset ++ singleCalls options.single.truthy, ?_, ?_⟩
      · simp only [List.forall_mem_append]
        exact ⟨⟨isPlain_orderCalls _, isPlain_pageCalls _ _⟩, isPlain_singleCalls _⟩
      · simpa only [requestCalls, queryCalls, List.append_assoc] using asks
  | @count table _ =>
      cases filtered
      refine ⟨[], nofun, .given parsed ?_⟩
      refine (chains_chain (.table table)).asks fun _ => (chains_chain .selectCount).asks fun _ => ?_
      refine ((records_filter lowers).chains).asks fun _ => (asks_send .execute).quiet fun reply => ?_
      exact .bind (.ofExcept _) fun _ => .pure _
  | @update table patch _ =>
      cases filtered
      refine ⟨[], nofun, .given parsed ?_⟩
      refine (chains_chain (.table table)).asks fun _ => (chains_chain (.update patch)).asks fun _ => ?_
      exact ((records_filter lowers).chains).asks fun _ => asks_sendForRows
  | @delete table _ =>
      cases filtered
      refine ⟨[], nofun, .given parsed ?_⟩
      refine (chains_chain (.table table)).asks fun _ => (chains_chain .delete).asks fun _ => ?_
      exact ((records_filter lowers).chains).asks fun _ => asks_sendForRows

/-- An operation that cannot begin sends nothing. -/
theorem asks_unopened (unopened : ∀ opening, ¬Opens operation opening) :
    ∃ calls, .execute ∉ calls ∧ Asks (adapter.body operation) calls := by
  have named (table : Value) : Call.execute ∉ [Call.table table] := by
    intro h
    cases List.mem_singleton.1 h
  cases operation with
  | select table columns _ =>
      cases filtered
      cases selected : Selection.ofValue columns with
      | ok selection => exact absurd (.select selected) (unopened _)
      | error fault => exact ⟨_, named table, .given parsed (asks_selecting table spec selected)⟩
  | selectOne table columns _ =>
      cases filtered
      cases selected : Selection.ofValue columns with
      | ok selection => exact absurd (.selectOne selected) (unopened _)
      | error fault => exact ⟨_, named table, .given parsed (asks_selecting table spec selected)⟩
  | query table options =>
      cases read : options.check with
      | error fault => exact ⟨[], nofun, .refused read⟩
      | ok checked =>
          cases selected : Selection.ofValue options.select with
          | ok selection => exact absurd (.query read selected) (unopened _)
          | error fault =>
              exact ⟨_, named table, .given read (asks_selecting table checked.spec selected)⟩
  | count table _ => exact absurd .count (unopened _)
  | update table _ patch => exact absurd .update (unopened _)
  | delete table _ => exact absurd .delete (unopened _)
  | _ => cases filtered

end Body

/-! ## Operations -/

/-- Whatever becomes of an outcome, the client is told nothing more. -/
theorem asked_perform {adapter : Adapter} {operation : Operation} {calls : List Call}
    (asks : Asks (adapter.body operation) calls) (host : Host Client) :
    (adapter.perform operation host).2.backend.asked = host.backend.asked ++ calls := by
  have asked := asks host
  rw [Adapter.perform, Profile.resolve_apply rfl]
  rcases ran : adapter.body operation host with ⟨outcome, after⟩
  rw [ran] at asked
  cases outcome with
  | ok data => exact asked
  | error fault =>
      have quiet : Quiet (profile.settle operation.name fault) :=
        Profile.fixes_settle rfl (.pure ()) operation.name fault
      exact (quiet after).trans asked

/-- A request keeps what its filters keep. -/
theorem keptBy_iff_of_isPlain {opening filtering ending : List Call} {record : Record}
    (first : ∀ call ∈ opening, call.isFilter = false)
    (last : ∀ call ∈ ending, call.isFilter = false) :
    KeptBy (opening ++ filtering ++ ending) record ↔ KeptBy filtering record := by
  constructor
  · intro kept call member
    exact kept call (List.mem_append_left _ (List.mem_append_right _ member))
  · intro kept call member
    rcases List.mem_append.1 member with member | member
    · rcases List.mem_append.1 member with member | member
      · exact Call.keeps_of_not_isFilter (first call member) record
      · exact kept call member
    · exact Call.keeps_of_not_isFilter (last call member) record

/-- Where an operation is about records that filters accept, its request begins with what is to be
done, says one filter for each condition, and is sent last; and it keeps exactly the records that the
filters accept. An operation that cannot begin sends no request. -/
theorem perform_keeps_accepted (adapter : Adapter) (host : Host Client) {operation : Operation}
    {filters : Filters} {spec : Spec} (filtered : operation.filters? = some filters)
    (parsed : filters.parse = .ok spec) (concrete : spec.IsConcrete) :
    (∀ opening, Opens operation opening → ∃ filtering page : List Call,
      (adapter.perform operation host).2.backend.asked =
        host.backend.asked ++ (opening ++ filtering ++ (page ++ [.execute])) ∧
      filtering.length = spec.length ∧ (∀ call ∈ filtering, call.isFilter = true) ∧
      (∀ call ∈ opening ++ page, call.isFilter = false ∧ call ≠ .execute) ∧
      ∀ record, spec.Agrees record
        (KeptBy (opening ++ filtering ++ (page ++ [.execute])) record)) ∧
    ((∀ opening, ¬Opens operation opening) → ∃ calls,
      (adapter.perform operation host).2.backend.asked = host.backend.asked ++ calls ∧
      .execute ∉ calls) := by
  constructor
  · intro opening opens
    rcases exists_lowers concrete with ⟨filtering, lowers⟩
    rcases asks_body adapter filtered parsed opens lowers with ⟨page, plain, asks⟩
    refine ⟨filtering, page, asked_perform asks host, lowers.length_eq.symm, lowers.isFilter,
      List.forall_mem_append.2 ⟨opens.isPlain, plain⟩, fun record => ?_⟩
    have ending : ∀ call ∈ page ++ [.execute], call.isFilter = false :=
      List.forall_mem_append.2 ⟨fun call member => (plain call member).1, by simp [Call.isFilter]⟩
    refine Spec.agrees_of_selects concrete ?_
    rw [keptBy_iff_of_isPlain (fun call member => (opens.isPlain call member).1) ending,
      lowers.keptBy_iff]
  · intro unopened
    rcases asks_unopened adapter filtered parsed unopened with ⟨calls, unsent, asks⟩
    exact ⟨calls, asked_perform asks host, unsent⟩

/-- Rows are deleted that two conditions accept. -/
theorem perform_keeps_accepted_delete :
    let filters : Filters := .other (.object [("id", .list [.int 1, .int 2]),
      ("name", .object [("ilike", .text "a_")])])
    let spec : Spec := [("id", .oneOf [.int 1, .int 2]), ("name", .ilike (.text "a_"))]
    let operation : Operation := .delete (.text "notes") filters
    operation.filters? = some filters ∧ filters.parse = .ok spec ∧ spec.IsConcrete ∧
    Opens operation [.table (.text "notes"), .delete] ∧ ∃ filtering page : List Call,
      (Adapter.perform {} operation { backend := {} }).2.backend.asked =
        [] ++ ([.table (.text "notes"), .delete] ++ filtering ++ (page ++ [.execute])) ∧
      filtering.length = spec.length ∧ (∀ call ∈ filtering, call.isFilter = true) ∧
      (∀ call ∈ [.table (.text "notes"), .delete] ++ page,
        call.isFilter = false ∧ call ≠ .execute) ∧
      ∀ record, spec.Agrees record
        (KeptBy ([.table (.text "notes"), .delete] ++ filtering ++ (page ++ [.execute])) record) := by
  intro filters spec operation
  have concrete : spec.IsConcrete := by
    intro entry he
    simp only [spec, List.mem_cons, List.not_mem_nil, or_false] at he
    rcases he with rfl | rfl <;> trivial
  have filtered : operation.filters? = some filters := rfl
  have kept := perform_keeps_accepted {} { backend := {} } filtered rfl concrete
  exact ⟨rfl, rfl, concrete, .delete, kept.1 _ .delete⟩

end Hosted

end DataGateway
