import DataGateway.Proofs.Gateway.Session
import DataGateway.Relational.Adapter

/-!
# Sessions of the relational adapter

A session is in the host alone, and its token says nothing to the database.

* `Idle` — a step that neither begins nor ends a session;
* `behaves_body` — what each operation does to the session.
-/

namespace DataGateway.Relational

variable {β α : Type}

/-- A step that neither begins nor ends a session. -/
abbrev Idle (step : Work β α) : Prop := Holding {} step

theorem forgets : Forgets {} (profile : Profile β) := fun backend _ => ⟨backend, rfl, trivial, trivial⟩

namespace Adapter

variable (adapter : Adapter β)

/-! ## Statements -/

theorem idle_carryOut (command : Command) : Idle (adapter.carryOut command) :=
  holding_onBackend fun _ => spared_nothing _ _

theorem idle_run (prepared : Except Fault Sql.Prepared) : Idle (adapter.run prepared) :=
  .bind (.ofExcept _) fun _ => adapter.idle_carryOut _

theorem idle_rows (prepared : Except Fault Sql.Prepared) : Idle (adapter.rows prepared) :=
  .bind (adapter.idle_run prepared) fun _ => .pure _

theorem idle_selectOne (table columns : Value) (filters : Filters) :
    Idle (adapter.selectOne table columns filters) :=
  .bind (adapter.idle_run _) fun _ => .ofExcept _

theorem idle_query (table : Value) (options : Query.Options) : Idle (adapter.query table options) := by
  refine .bind (adapter.idle_rows _) fun rows => ?_
  cases options.single.truthy with
  | false => exact .pure _
  | true => exact .ofExcept _

theorem idle_count (table : Value) (filters : Filters) : Idle (adapter.count table filters) :=
  .bind (adapter.idle_run _) fun _ => .ofExcept _

theorem idle_insert (table data : Value) : Idle (adapter.insert table data) :=
  .bind (adapter.idle_rows _) fun _ => .ofExcept _

theorem idle_upsert (table data : Value) : Idle (adapter.upsert table data) :=
  .bind (adapter.idle_rows _) fun _ => .ofExcept _

theorem idle_rpc (name params : Value) : Idle (adapter.rpc name params) := by
  refine .bind (adapter.idle_run _) fun rows => ?_
  cases rows.truthy with
  | false => exact .pure _
  | true => exact .ofExcept _

/-! ## Accounts -/

/-- A session begins when the account has been read. -/
theorem starting_enter (token : String) (denial : Denial) (rows : Value) :
    Starting {} (enter token denial rows : Work β Value) := by
  have entering : Starting {} (do
      let principal ← Action.ofExcept (rows.first >>= principalOf)
      profile.startSession (.text token) principal
      return principal : Work β Value) := by
    refine .bind (.ofExcept _) fun principal => starting_startSession _ _ _ fun host _ _ => ?_
    exact ⟨Holds.lives (refl_of (Holds {}) host), fun _ => ⟨principal, rfl⟩⟩
  unfold enter
  split
  · exact .bind (.fail _) fun _ => entering
  · exact entering

theorem entering_signIn (token : String) (email password : Value) :
    Entering {} (adapter.signIn token email password) :=
  Starting.entering (.bind (adapter.idle_carryOut _) fun _ => starting_enter token _ _)

theorem entering_signUp (token : String) (email password : Value) :
    Entering {} (adapter.signUp token email password) := by
  have asking : Starting {} (do
      enter token .noUserReturned (← adapter.carryOut (adapter.signUpCommand email password))) :=
    .bind (adapter.idle_carryOut _) fun _ => starting_enter token _ _
  refine Starting.entering ?_
  unfold signUp
  split
  · exact .bind (.fail _) fun _ => asking
  · exact asking

theorem ending_signOut : Ending {} (signOut : Work β Value) :=
  Ending.bind_idle (ending_endSession forgets) fun _ _ => rfl

theorem idle_currentUser : Idle (currentUser : Work β Value) :=
  holding_requireSession fun _ => Holding.within (.map _ (.ofExcept _))

/-! ## Operations -/

theorem behaves_body (token : String) (operation : Operation) :
    Behaves {} operation (adapter.body token operation) := by
  cases operation with
  | select table columns filters => exact (adapter.idle_rows _).resuming
  | selectOne table columns filters => exact (adapter.idle_selectOne table columns filters).resuming
  | query table options => exact (adapter.idle_query table options).resuming
  | count table filters => exact (adapter.idle_count table filters).resuming
  | insert table data => exact (adapter.idle_insert table data).resuming
  | insertMany table rows => exact (adapter.idle_rows _).resuming
  | update table filters patch => exact (adapter.idle_rows _).resuming
  | delete table filters => exact (adapter.idle_rows _).resuming
  | upsert table data => exact (adapter.idle_upsert table data).resuming
  | rpc name params => exact (adapter.idle_rpc name params).resuming
  | signIn email password => exact adapter.entering_signIn token email password
  | signUp email password => exact adapter.entering_signUp token email password
  | signOut => exact ending_signOut
  | currentUser => exact idle_currentUser.resuming
  | isAuthenticated => exact Holding.resuming (.map _ holding_hasSession)

theorem follows_perform {adapter : Adapter β} {token : String} {operation : Operation}
    {host after : Host β} {response : Response}
    (ran : adapter.perform token operation host = (.ok response, after)) :
    Follows {} profile operation (adapter.body token operation) host response after :=
  follows_resolve rfl forgets (adapter.behaves_body token operation) trivial ran fun _ _ => trivial

end Adapter

end DataGateway.Relational
