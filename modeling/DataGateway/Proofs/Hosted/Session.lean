import DataGateway.Hosted.Adapter
import DataGateway.Proofs.Gateway.Session

/-!
# Sessions of the hosted adapter

The service keeps its sessions to itself: the adapter has one in its host alone.

* `Idle` — a step that neither begins nor ends a session;
* `behaves_body` — what each operation does to the session.
-/

namespace DataGateway.Hosted

variable {α : Type}

/-- A step that neither begins nor ends a session. -/
abbrev Idle (step : Work α) : Prop := Holding {} step

theorem forgets : Forgets {} profile := fun backend _ => ⟨backend, rfl, trivial, trivial⟩

/-! ## Calls -/

theorem idle_onBackend (step : Action Client α) : Idle (Host.onBackend step) :=
  holding_onBackend fun _ => spared_nothing _ _

theorem idle_sendForRows : Idle sendForRows :=
  .bind (idle_onBackend _) fun _ => .bind (.ofExcept _) fun _ => .pure _

theorem idle_sendForSingle : Idle sendForSingle :=
  .bind (idle_onBackend _) fun _ => idle_onBackend _

theorem idle_selecting (table columns : Value) (spec : Spec) : Idle (selecting table columns spec) :=
  .bind (idle_onBackend _) fun _ => .bind (.ofExcept _) fun _ => .bind (idle_onBackend _) fun _ =>
    idle_onBackend _

/-! ## Queries -/

theorem idle_select (table columns : Value) (filters : Filters) :
    Idle (select table columns filters) :=
  .bind (.ofExcept _) fun _ => .bind (idle_selecting _ _ _) fun _ => idle_sendForRows

theorem idle_selectOne (table columns : Value) (filters : Filters) :
    Idle (selectOne table columns filters) := by
  refine .bind (.ofExcept _) fun _ => .bind (idle_selecting _ _ _) fun _ => ?_
  refine .bind (idle_onBackend _) fun _ => .bind idle_sendForSingle fun reply => ?_
  cases reply with
  | nothing => exact .pure _
  | attributes fields => exact .bind (.ofExcept _) fun _ => .pure _

theorem idle_paging (limit offset : Option Query.Bound) : Idle (paging limit offset) := by
  cases offset with
  | none =>
      cases limit with
      | none => exact .pure _
      | some size => exact idle_onBackend _
  | some offset =>
      unfold paging
      dsimp only
      split
      · exact idle_onBackend _
      · cases limit with
        | none => exact .pure _
        | some size => exact idle_onBackend _

/-- The end of a query is the same for rows that are put in order and for those that are not. -/
theorem idle_paged (single : Bool) (limit offset : Option Query.Bound) : Idle (do
    paging (if single then some (.number 1) else limit) offset
    if single then
      match ← sendForSingle with
      | .nothing => return .null
      | reply => Action.ofExcept (reply.read "data")
    else sendForRows) := by
  refine .bind (idle_paging _ _) fun _ => ?_
  cases single with
  | false => exact idle_sendForRows
  | true =>
      refine .bind idle_sendForSingle fun reply => ?_
      cases reply with
      | nothing => exact .pure _
      | attributes fields => exact .ofExcept _

theorem idle_query (table : Value) (options : Query.Options) : Idle (query table options) := by
  refine .bind (.ofExcept _) fun checked => .bind (idle_selecting _ _ _) fun _ => ?_
  have ending := idle_paged options.single.truthy checked.limit checked.offset
  cases options.ordering with
  | none => exact ending
  | some ordering => exact .bind (idle_onBackend _) fun _ => ending

theorem idle_count (table : Value) (filters : Filters) : Idle (count table filters) :=
  .bind (.ofExcept _) fun _ => .bind (idle_onBackend _) fun _ => .bind (idle_onBackend _) fun _ =>
    .bind (idle_onBackend _) fun _ => .bind (idle_onBackend _) fun _ => .bind (.ofExcept _) fun _ =>
      .pure _

/-! ## Mutations -/

theorem idle_insert (table data : Value) : Idle (insert table data) :=
  .bind (.ofExcept _) fun _ => .bind (idle_onBackend _) fun _ => .bind (idle_onBackend _) fun _ =>
    .bind idle_sendForRows fun _ => .ofExcept _

theorem idle_insertMany (table rows : Value) : Idle (insertMany table rows) := by
  have sending : Idle (do
      chain (.table table)
      chain (.insert (← Action.ofExcept (rowsOf rows)))
      sendForRows) :=
    .bind (idle_onBackend _) fun _ => .bind (.ofExcept _) fun _ => .bind (idle_onBackend _) fun _ =>
      idle_sendForRows
  unfold insertMany
  split
  · exact .bind (.fail _) fun _ => sending
  · exact sending

theorem idle_update (table : Value) (filters : Filters) (patch : Value) :
    Idle (update table filters patch) :=
  .bind (.ofExcept _) fun _ => .bind (idle_onBackend _) fun _ => .bind (idle_onBackend _) fun _ =>
    .bind (idle_onBackend _) fun _ => idle_sendForRows

theorem idle_delete (table : Value) (filters : Filters) : Idle (delete table filters) :=
  .bind (.ofExcept _) fun _ => .bind (idle_onBackend _) fun _ => .bind (idle_onBackend _) fun _ =>
    .bind (idle_onBackend _) fun _ => idle_sendForRows

theorem idle_upsert (table data : Value) : Idle (upsert table data) :=
  .bind (idle_onBackend _) fun _ => .bind (.ofExcept _) fun _ => .bind (idle_onBackend _) fun _ =>
    .bind idle_sendForRows fun _ => .ofExcept _

theorem idle_rpc (name params : Value) : Idle (rpc name params) :=
  .bind (idle_onBackend _) fun _ => .bind (idle_onBackend _) fun _ => .ofExcept _

/-! ## Accounts -/

theorem idle_sendCredentials (call : Call) : Idle (sendCredentials call) := by
  refine .bind (.attempt (idle_onBackend _)) fun result => ?_
  cases result with
  | error fault => exact .fail _
  | ok reply => exact .pure reply

/-- A session begins when all of a reply has been read. -/
theorem starting_enter (reply : Reply) {next : Bool → Work Value}
    (ends : ∀ host, ∃ data, next true host = (.ok data, host)) (idle : Idle (next false)) :
    Starting {} (enter reply >>= next) := by
  unfold enter
  dsimp only
  split
  · exact Holding.starting idle
  · simp only [bind_assoc, pure_bind]
    refine .bind (.ofExcept _) fun token => starting_startSession _ _ _ fun host _ _ => ?_
    rcases ends host with ⟨data, ended⟩
    rw [ended]
    exact ⟨Holds.lives (refl_of (Holds {}) host), fun _ => ⟨data, rfl⟩⟩

theorem entering_signIn (email password : Value) : Entering {} (signIn email password) := by
  refine Starting.entering (.bind (idle_sendCredentials _) fun reply => starting_enter reply ?_ ?_)
  · exact fun host => ⟨reply.user, rfl⟩
  · exact .fail _

theorem entering_signUp (adapter : Adapter) (email password : Value) :
    Entering {} (adapter.signUp email password) := by
  refine Starting.entering (.bind (idle_sendCredentials _) fun reply => starting_enter reply ?_ ?_)
  · exact fun host => ⟨reply.user, rfl⟩
  · exact .pure _

theorem ending_signOut : Ending {} Adapter.signOut :=
  Ending.bind_idle (ending_ensuring forgets (idle_onBackend _).resuming) fun _ _ => rfl

theorem idle_currentUser : Idle Adapter.currentUser := by
  refine holding_requireSession fun session => ?_
  refine .bind (idle_onBackend _).within fun reply => ?_
  have naming : HoldingIn {} session.token (do
      Host.setPrincipal session reply.user
      return reply.user : Work Value) :=
    .bind (holdingIn_setPrincipal session _) fun _ => Holding.within (.pure _)
  dsimp only
  split
  · exact .bind (Holding.within (.fail _)) fun _ => naming
  · exact naming

/-! ## Operations -/

theorem behaves_body (adapter : Adapter) (operation : Operation) :
    Behaves {} operation (adapter.body operation) := by
  cases operation with
  | select table columns filters => exact (idle_select table columns filters).resuming
  | selectOne table columns filters => exact (idle_selectOne table columns filters).resuming
  | query table options => exact (idle_query table options).resuming
  | count table filters => exact (idle_count table filters).resuming
  | insert table data => exact (idle_insert table data).resuming
  | insertMany table rows => exact (idle_insertMany table rows).resuming
  | update table filters patch => exact (idle_update table filters patch).resuming
  | delete table filters => exact (idle_delete table filters).resuming
  | upsert table data => exact (idle_upsert table data).resuming
  | rpc name params => exact (idle_rpc name params).resuming
  | signIn email password => exact entering_signIn email password
  | signUp email password => exact entering_signUp adapter email password
  | signOut => exact ending_signOut
  | currentUser => exact idle_currentUser.resuming
  | isAuthenticated => exact Holding.resuming (.map _ holding_hasSession)

theorem follows_perform {adapter : Adapter} {operation : Operation} {host after : Host Client}
    {response : Response} (ran : adapter.perform operation host = (.ok response, after)) :
    Follows {} profile operation (adapter.body operation) host response after :=
  follows_resolve rfl forgets (behaves_body adapter operation) trivial ran fun _ _ => trivial

end DataGateway.Hosted
