import DataGateway.Offline.Adapter
import DataGateway.Proofs.Fault.Sparing
import DataGateway.Proofs.Gateway.Host

/-!
# The offline adapter never revokes

Nobody can turn an offline session down. Whatever goes wrong in an operation, be it with the arguments,
the rows or the store, the session may go on.

* `spares_change`, `spares_orderRows`, … — work on rows;
* `spares_insert`, …, `spares_body` — the operations;
* `perform_of_error` — so the response to a fault is a text, and all else stays as the operation left it.
-/

namespace DataGateway

/-! ## Conditions -/

theorem Condition.spares_test (condition : Condition) (v : Value) (present : Bool) :
    Spares (condition.test v present) := by
  unfold test
  split
  · exact .error rfl
  · exact .ite (.ok _) (.error rfl)

theorem Spec.spares_accepts (spec : Spec) (v : Value) : Spares (spec.accepts v) := by
  induction spec with
  | nil => exact .ok _
  | cons entry spec ih =>
      rcases entry with ⟨column, condition⟩
      refine .bind (v.spares_holds column) fun present => .bind (v.spares_field column) fun found => ?_
      refine .bind (condition.spares_test found present) fun accepted => ?_
      cases accepted with
      | true => exact ih
      | false => exact .ok _

namespace Offline

variable {α : Type} (moment : Moment)

/-! ## Rows -/

theorem spares_filterRows (spec : Spec) (rows : Table) : Spares (filterRows spec rows) := by
  induction rows with
  | nil => exact .ok _
  | cons row rows ih => exact .bind (spec.spares_accepts row) fun _ => .bind ih fun _ => .ok _

theorem spares_partitionRows (spec : Spec) (rows : Table) : Spares (partitionRows spec rows) := by
  induction rows with
  | nil => exact .ok _
  | cons row rows ih =>
      refine .bind (spec.spares_accepts row) fun accepted => .bind ih fun _ => ?_
      cases accepted <;> exact .ok _

theorem spares_pick (row : Value) (names : List String) : Spares (pick row names) := by
  induction names with
  | nil => exact .ok _
  | cons name names ih =>
      refine .bind (row.spares_holds name) fun present => ?_
      cases present with
      | true => exact .bind (row.spares_under name) fun _ => .bind ih fun _ => .ok _
      | false => exact ih

theorem spares_project (columns row : Value) : Spares (project columns row) := by
  refine .bind (Selection.spares_ofValue columns) fun selection => ?_
  cases selection with
  | all => exact .bind row.spares_asRecord fun _ => .ok _
  | columns names => exact .bind (spares_pick row names) fun _ => .ok _

theorem spares_projectAll (columns : Value) (rows : Table) : Spares (projectAll columns rows) := by
  induction rows with
  | nil => exact .ok _
  | cons row rows ih => exact .bind (spares_project columns row) fun _ => .bind ih fun _ => .ok _

theorem spares_cell (row column : Value) : Spares (cell row column) := by
  refine .bind (row.spares_fieldsFor _) fun fields => .bind column.spares_ofValue fun _ => ?_
  cases column <;> exact .ok _

theorem spares_keyed (column : Value) (rows : Table) : Spares (keyed column rows) := by
  induction rows with
  | nil => exact .ok _
  | cons row rows ih => exact .bind (spares_cell row column) fun _ => .bind ih fun _ => .ok _

theorem spares_orderRows (ordering : Query.Ordering) (rows : Table) :
    Spares (orderRows ordering rows) := by
  refine .bind (spares_keyed ordering.column rows) fun keys => ?_
  dsimp only
  split
  · exact .ok _
  · exact .error rfl

theorem spares_indexOfId? (record : Record) (index : Nat) (rows : Table) :
    Spares (indexOfId? record index rows) := by
  induction rows generalizing index with
  | nil => exact .ok _
  | cons row rows ih =>
      unfold indexOfId?
      split
      · exact .ok _
      · exact .bind (row.spares_field "id") fun _ => .ite (.ok _) (ih (index + 1))

theorem spares_findRow? {test : Value → Except Fault Bool} (tested : ∀ row, Spares (test row))
    (rows : Table) : Spares (findRow? test rows) := by
  induction rows with
  | nil => exact .ok _
  | cons row rows ih =>
      refine .bind (tested row) fun found => ?_
      cases found with
      | true => exact .ok _
      | false => exact ih

/-! ## Changes -/

theorem spares_advance (previous : Value) : Spares (advance moment previous) := by
  unfold advance
  split
  · split
    · exact .ite (.ite (.ok _) (.error rfl)) (.ok _)
    · exact .ok _
  · exact .ok _

theorem spares_change (row patch : Value) : Spares (change moment row patch) :=
  .bind row.spares_spread fun _ => .bind patch.spares_spread fun _ =>
    .bind (spares_advance moment _) fun _ => .ok _

theorem spares_changeRows {test : Value → Except Fault Bool} {change : Value → Except Fault Value}
    (tested : ∀ row, Spares (test row)) (changed : ∀ row, Spares (change row)) (rows : Table) :
    Spares (changeRows test change rows).2 := by
  induction rows with
  | nil => exact .ok _
  | cons row rows ih =>
      have first : Spares (do if ← test row then some <$> change row else return none) := by
        refine .bind (tested row) fun picked => ?_
        cases picked with
        | true => exact .map some (changed row)
        | false => exact .ok _
      unfold changeRows
      dsimp only
      split
      · rename_i fault failed
        exact .error (first fault failed)
      · exact ih
      · exact .map _ ih

/-! ## The backend -/

theorem spares_nameOf (key : Key) : Spares (Json.nameOf key) := by
  unfold Json.nameOf
  split
  all_goals first
    | exact .ok _
    | exact .bind (Json.spares_requireWritable _ _) fun _ => .ok _
    | exact .error rfl

theorem spares_objectOf (pairs : List (Key × Value)) : Spares (Json.objectOf pairs) := by
  induction pairs with
  | nil => exact .ok _
  | cons pair pairs ih =>
      exact .bind (spares_nameOf pair.1) fun _ =>
        .bind (Json.spares_requireWritable _ pair.2) fun _ => .bind ih fun _ => .ok _

theorem spares_keep (key : String) (v : Value) : (Backend.keep key v).Spares :=
  .bind .get fun backend => .bind (.ofExcept (backend.store.spares_write key v)) fun _ => .modify _

theorem spares_drop (key : String) : (Backend.drop key).Spares :=
  .bind .get fun backend => .bind (.ofExcept (backend.store.spares_remove key)) fun _ => .modify _

theorem spares_backendSave : Backend.save.Spares :=
  .bind .get fun _ => .bind (.ofExcept (.map _ (spares_objectOf _))) fun _ => spares_keep _ _

theorem spares_millis : Spares moment.millis := by
  unfold Moment.millis
  exact Value.spares_asWhole _

theorem spares_generateId : (Backend.generateId moment).Spares := by
  refine .bind (.ofExcept (spares_millis moment)) fun millis => ?_
  intro backend
  exact .ok _

/-! ## Steps -/

theorem spares_onBackend {step : Action Backend α} (h : step.Spares) :
    (Host.onBackend step).Spares := h.onPart

theorem spares_save : save.Spares := spares_onBackend spares_backendSave

theorem spares_rowsOfTable (table : Value) : (rowsOfTable table).Spares :=
  .bind (.ofExcept table.spares_ofValue) fun _ => .bind .get fun _ => .pure _

theorem spares_requireTable (table : Value) : (requireTable table).Spares := by
  refine .bind (.ofExcept table.spares_ofValue) fun name => .bind .get fun host => ?_
  cases Fields.get? host.backend.tables name with
  | none => exact .bind (.ofExcept table.spares_printed) fun _ => .fail rfl
  | some rows => exact .pure rows

theorem spares_ensureTable (table : Value) : (ensureTable table).Spares := by
  refine .bind (.ofExcept table.spares_ofValue) fun name => .bind .get fun host => ?_
  cases Fields.get? host.backend.tables name with
  | none => exact .bind (spares_onBackend (.modify _)) fun _ => .pure _
  | some rows => exact .pure rows

theorem spares_putTable (table : Value) (rows : Table) : (putTable table rows).Spares :=
  .bind (.ofExcept table.spares_ofValue) fun _ => spares_onBackend (.modify _)

theorem spares_newRecord (row : Record) : (newRecord moment row).Spares := by
  have identified : (idFor moment row).Spares := by
    unfold idFor
    dsimp only
    split
    · exact .map _ (spares_onBackend (spares_generateId moment))
    · exact .pure _
  exact .bind identified fun _ => .pure _

theorem spares_newRecords (rows : List Record) : (newRecords moment rows).Spares := by
  induction rows generalizing moment with
  | nil => exact .pure _
  | cons row rows ih =>
      exact .bind (spares_newRecord moment row) fun _ => .bind (ih moment.next) fun _ => .pure _

theorem spares_startSession (token principal : Value) :
    (profile.startSession token principal).Spares :=
  .bind (.modify _) fun _ => .modify _

theorem spares_keepSession : keepSession.Spares := by
  refine .bind .get fun host => ?_
  cases host.session with
  | none => exact .pure _
  | some session => exact spares_onBackend (spares_keep _ _)

theorem spares_restoreSession : restoreSession.Spares := by
  refine .bind .get fun host => ?_
  cases host.session.isSome with
  | true => exact .pure _
  | false =>
      refine .bind (.ofExcept (host.backend.store.spares_read _)) fun stored => ?_
      cases sessionOf? stored with
      | none => exact .pure _
      | some session => exact spares_startSession _ _

theorem spares_requireSession : (Host.requireSession : Work Session).Spares := by
  refine .bind .get fun host => ?_
  cases host.session with
  | none => exact .fail rfl
  | some session => exact .pure session

theorem spares_endSession : profile.endSession.Spares := by
  have ending : Action.Spares (do
      modify fun (host : Host Backend) => { host with session := none }
      Host.onBackend profile.forget) :=
    .bind (.modify _) fun _ => spares_onBackend (spares_drop _)
  refine .bind (.bind .get fun _ => .pure _) fun present => ?_
  cases present with
  | false => exact ending
  | true => exact .bind (.modify _) fun _ => ending

/-! ## Queries -/

theorem spares_selected (table : Value) (spec : Spec) : (selected table spec).Spares :=
  .bind (spares_rowsOfTable table) fun _ => .ofExcept (spares_filterRows _ _)

theorem spares_select (table columns : Value) (filters : Filters) :
    (select table columns filters).Spares :=
  .bind (.ofExcept filters.spares_parse) fun _ => .bind (spares_selected table _) fun _ =>
    .map _ (.ofExcept (spares_projectAll columns _))

theorem spares_selectOne (table columns : Value) (filters : Filters) :
    (selectOne table columns filters).Spares := by
  refine .bind (.ofExcept filters.spares_parse) fun _ => .bind (spares_selected table _) fun rows => ?_
  cases rows with
  | nil => exact .pure _
  | cons row rows => exact .ofExcept (spares_project columns row)

theorem spares_query (table : Value) (options : Query.Options) : (query table options).Spares := by
  refine .bind (.ofExcept options.spares_check) fun checked =>
    .bind (spares_selected table _) fun rows => ?_
  -- the same end for rows that are put in order and for those that are not
  have ending (rows : Table) : Action.Spares (do
      let rows := page checked.limit checked.offset rows
      let rows ← Action.ofExcept (projectAll options.select rows)
      if options.single.truthy then return rows.headD .null else return .list rows : Work Value) := by
    refine .bind (.ofExcept (spares_projectAll _ _)) fun rows => ?_
    cases options.single.truthy <;> exact .pure _
  cases options.ordering with
  | none => exact .bind (.pure _) ending
  | some ordering => exact .bind (.ofExcept (spares_orderRows ordering rows)) ending

theorem spares_count (table : Value) (filters : Filters) : (count table filters).Spares :=
  .bind (.ofExcept filters.spares_parse) fun _ => .bind (spares_selected table _) fun _ => .pure _

/-! ## Mutations -/

theorem spares_insertRows (table : Value) (rows : List Record) :
    (insertRows moment table rows).Spares :=
  .bind (spares_ensureTable table) fun _ => .bind (spares_newRecords moment rows) fun _ =>
    .bind (spares_rowsOfTable table) fun _ => .bind (spares_putTable table _) fun _ =>
      .bind spares_save fun _ => .pure _

theorem spares_insert (table data : Value) : (insert moment table data).Spares := by
  refine .bind (.ofExcept (spares_rowsOf data)) fun rows =>
    .bind (spares_insertRows moment table rows) fun inserted => ?_
  cases data.isObject <;> exact .pure _

theorem spares_insertMany (table rows : Value) : (insertMany moment table rows).Spares :=
  .bind (.ofExcept (spares_batchOf rows)) fun _ => .map _ (spares_insertRows moment table _)

theorem spares_rewriteRows {test : Value → Except Fault Bool} (tested : ∀ row, Spares (test row))
    (table patch : Value) (rows : Table) : (rewriteRows moment table test patch rows).Spares :=
  .bind (spares_putTable table _) fun _ =>
    .ofExcept (spares_changeRows tested (fun row => spares_change moment row patch) rows)

theorem spares_update (table : Value) (filters : Filters) (patch : Value) :
    (update moment table filters patch).Spares :=
  .bind (.ofExcept filters.spares_parse) fun spec => .bind (spares_requireTable table) fun rows =>
    .bind (spares_rewriteRows moment spec.spares_accepts table patch rows) fun _ =>
      .bind spares_save fun _ => .pure _

theorem spares_delete (table : Value) (filters : Filters) : (delete table filters).Spares :=
  .bind (.ofExcept filters.spares_parse) fun _ => .bind (spares_requireTable table) fun _ =>
    .bind (.ofExcept (spares_partitionRows _ _)) fun _ => .bind (spares_putTable table _) fun _ =>
      .bind spares_save fun _ => .pure _

theorem spares_upsertRow (table : Value) (record : Record) :
    (upsertRow moment table record).Spares := by
  refine .bind (spares_rowsOfTable table) fun rows =>
    .bind (.ofExcept (spares_indexOfId? record 0 rows)) fun index => ?_
  cases index with
  | none =>
      exact .bind (spares_newRecord moment record) fun _ =>
        .bind (spares_putTable table _) fun _ => .pure _
  | some index =>
      exact .bind (.ofExcept (spares_change moment _ _)) fun _ =>
        .bind (spares_putTable table _) fun _ => .pure _

theorem spares_upsertRows (table : Value) (records : List Record) :
    (upsertRows moment table records).Spares := by
  induction records generalizing moment with
  | nil => exact .pure _
  | cons record records ih =>
      exact .bind (spares_upsertRow moment table record) fun _ => .bind (ih moment.next) fun _ => .pure _

theorem spares_upsert (table data : Value) : (upsert moment table data).Spares := by
  refine .bind (spares_ensureTable table) fun _ => .bind (.ofExcept (spares_rowsOf data)) fun records =>
    .bind (spares_upsertRows moment table records) fun _ => .bind spares_save fun _ => ?_
  cases data.isObject <;> exact .pure _

/-! ## Functions -/

theorem spares_isOwn (principal row : Value) : Spares (isOwn principal row) :=
  .bind (row.spares_field "id") fun _ => .bind (principal.spares_field "id") fun _ => .ok _

theorem spares_changeUsers (principal patch : Value) :
    (changeUsers moment principal patch).Spares := by
  refine .bind .get fun host => ?_
  cases Fields.has host.backend.tables (.ofText "users") with
  | false => exact .pure _
  | true =>
      exact .bind (spares_rowsOfTable _) fun rows =>
        .bind (spares_rewriteRows moment (spares_isOwn principal) usersTable patch rows) fun _ =>
          .pure _

theorem spares_updateProfile (params : Value) : (updateProfile moment params).Spares :=
  .bind spares_requireSession fun session => .bind (.ofExcept session.principal.spares_spread) fun _ =>
    .bind (.ofExcept (Value.spares_spread _)) fun _ => .bind (.modify _) fun _ =>
      .bind (spares_changeUsers moment _ _) fun _ => .bind spares_save fun _ =>
        .bind spares_keepSession fun _ => .pure _

theorem spares_principalRecord (session : Session) : Spares (principalRecord session) :=
  .map _ session.principal.spares_asRecord

theorem spares_rpc (name params : Value) : (rpc moment name params).Spares := by
  refine .bind spares_restoreSession fun _ => ?_
  split
  · refine .bind .get fun host => ?_
    cases host.session with
    | none => exact .pure _
    | some session => exact .ofExcept (spares_principalRecord session)
  · split
    · exact spares_updateProfile moment params
    · exact .bind (.ofExcept name.spares_requirePrintable) fun _ => .pure _

/-! ## Accounts -/

theorem spares_hasEmail (email row : Value) : Spares (hasEmail email row) :=
  .bind (row.spares_field "email") fun _ => .ok _

theorem spares_hasLogin (email password row : Value) : Spares (hasLogin email password row) := by
  refine .bind (spares_hasEmail email row) fun known => ?_
  cases known with
  | true => exact .bind (row.spares_field "password") fun _ => .ok _
  | false => exact .ok _

theorem spares_localPart (email : Value) : Spares (localPart email) := by
  cases email with
  | text s => exact .ok _
  | _ => exact .error rfl

theorem spares_requireNewEmail (email : Value) (accounts : Table) :
    Spares (requireNewEmail email accounts) := by
  refine .bind (spares_findRow? (spares_hasEmail email) accounts) fun found => ?_
  cases found with
  | none => exact .ok _
  | some account => exact .error rfl

theorem spares_tokenFor (id : Value) : Spares (tokenFor id) := .bind id.spares_printed fun _ => .ok _

theorem spares_signIn (email password : Value) : (signIn email password).Spares := by
  refine .bind (spares_rowsOfTable _) fun accounts =>
    .bind (.ofExcept (spares_findRow? (spares_hasLogin email password) accounts)) fun account => ?_
  cases account with
  | none => exact .fail rfl
  | some account =>
      refine .bind (spares_rowsOfTable _) fun users =>
        .bind (.ofExcept (spares_findRow? (spares_hasEmail email) users)) fun user => ?_
      have principal : Spares (if (user.getD .null).truthy then (user.getD .null).asRecord
          else do
            let id ← account.under "id"
            return [("id", id), ("email", ← account.under "email")]) :=
        .ite (Value.spares_asRecord _)
          (.bind (account.spares_under "id") fun _ =>
            .bind (account.spares_under "email") fun _ => .ok _)
      exact .bind (.ofExcept principal) fun _ => .bind (.ofExcept (Value.spares_under _ _)) fun _ =>
        .bind (.ofExcept (spares_tokenFor _)) fun _ => .bind (spares_startSession _ _) fun _ =>
          .bind spares_keepSession fun _ => .pure _

theorem spares_signUp (email password : Value) : (signUp moment email password).Spares :=
  .bind (.ofExcept (.ite (.ok _) (.error rfl))) fun _ => .bind (spares_ensureTable _) fun accounts =>
    .bind (.ofExcept (spares_requireNewEmail email accounts)) fun _ =>
      .bind (.map _ (spares_onBackend (spares_generateId moment))) fun _ =>
        .bind (.ofExcept (spares_localPart email)) fun _ => .bind (spares_putTable _ _) fun _ =>
          .bind (spares_ensureTable _) fun _ => .bind (spares_putTable _ _) fun _ =>
            .bind spares_save fun _ => .bind (.ofExcept (spares_tokenFor _)) fun _ =>
              .bind (spares_startSession _ _) fun _ => .bind spares_keepSession fun _ => .pure _

theorem spares_currentUser : currentUser.Spares :=
  .bind spares_restoreSession fun _ => .bind spares_requireSession fun session =>
    .ofExcept (spares_principalRecord session)

theorem spares_isAuthenticated : isAuthenticated.Spares :=
  .bind spares_restoreSession fun _ => .bind (.bind .get fun _ => .pure _) fun _ => .pure _

/-! ## Operations -/

theorem spares_body (operation : Operation) : (body moment operation).Spares := by
  cases operation with
  | select table columns filters => exact spares_select table columns filters
  | selectOne table columns filters => exact spares_selectOne table columns filters
  | query table options => exact spares_query table options
  | count table filters => exact spares_count table filters
  | insert table data => exact spares_insert moment table data
  | insertMany table rows => exact spares_insertMany moment table rows
  | update table filters patch => exact spares_update moment table filters patch
  | delete table filters => exact spares_delete table filters
  | upsert table data => exact spares_upsert moment table data
  | rpc name params => exact spares_rpc moment name params
  | signIn email password => exact spares_signIn email password
  | signUp email password => exact spares_signUp moment email password
  | signOut => exact .bind spares_endSession fun _ => .pure _
  | currentUser => exact spares_currentUser
  | isAuthenticated => exact spares_isAuthenticated

/-! ## Responses -/

section Responses

variable {host after : Host Backend} {moment : Moment} {operation : Operation}

theorem perform_of_ok {data : Value} (ran : body moment operation host = (.ok data, after)) :
    perform moment operation host = (.ok (.success data), after) := by
  have envelope : perform moment operation host = _ :=
    Profile.resolve_apply rfl operation.name (body moment operation) host
  rw [envelope, ran]

/-- A fault leaves a text, a line in the journal, and the session as it was. -/
theorem perform_of_error {fault : Fault} (ran : body moment operation host = (.error fault, after)) :
    ∃ text journal, perform moment operation host =
      (.ok (.failure text), { after with journal }) := by
  have envelope : perform moment operation host = _ :=
    Profile.resolve_apply rfl operation.name (body moment operation) host
  have spared : fault.classified.revokes = false := by
    rw [Fault.revokes_classified]
    exact spares_body moment operation host fault (congrArg Prod.fst ran)
  have answered : ∃ text journal, text ≠ "" ∧ profile.settle operation.name fault after =
      (.ok (.failure text), { after with journal }) :=
    Profile.settle_spared operation.name after rfl rfl spared
  rcases answered with ⟨text, journal, _, settled⟩
  rw [ran] at envelope
  exact ⟨text, journal, envelope.trans settled⟩

end Responses

end Offline

end DataGateway
