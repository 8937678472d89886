import DataGateway.Offline.Adapter
import DataGateway.Proofs.Gateway.Host

/-!
# Work on tables

All that most operations do to an adapter is to write tables, to count ids and to write the snapshot. A
relation between states that covers these three, for tables of certain names, covers the operations.

* `Covers names R` — the relation holds across one write, one new id and one snapshot;
* `moves_select`, `moves_count`, … — reading is covered by every preorder;
* `moves_insert`, `moves_update`, … — changing a table is covered by a relation that covers its name.
-/

namespace DataGateway.Offline

/-- A relation holds across each of the three things that work on tables does to a state. -/
structure Covers (names : Key → Prop) (R : Host Backend → Host Backend → Prop) : Prop where
  put (host : Host Backend) (name : Key) (rows : Table) : names name → R host
    { host with backend :=
      { host.backend with tables := Fields.set host.backend.tables name rows } }
  counted (host : Host Backend) (lastId : Int) :
    R host { host with backend := { host.backend with lastId } }
  saved (host : Host Backend) (v : Value) (store : Store) :
    host.backend.store.write snapshotKey v = .ok store →
      R host { host with backend := { host.backend with store } }

variable {names : Key → Prop} {R : Host Backend → Host Backend → Prop} [IsPreorder (Host Backend) R]
  {moment : Moment}

/-! ## Reading -/

theorem moves_rowsOfTable (table : Value) : (rowsOfTable table).Moves R :=
  .bind (.ofExcept _) fun _ => .bind .get fun _ => .pure _

theorem moves_requireTable (table : Value) : (requireTable table).Moves R := by
  refine .bind (.ofExcept _) fun name => .bind .get fun host => ?_
  cases Fields.get? host.backend.tables name with
  | none => exact .bind (.ofExcept _) fun _ => .fail _
  | some rows => exact .pure rows

theorem moves_selected (table : Value) (spec : Spec) : (selected table spec).Moves R :=
  .bind (moves_rowsOfTable table) fun _ => .ofExcept _

theorem moves_select (table columns : Value) (filters : Filters) :
    (select table columns filters).Moves R :=
  .bind (.ofExcept _) fun _ => .bind (moves_selected table _) fun _ => .map _ (.ofExcept _)

theorem moves_selectOne (table columns : Value) (filters : Filters) :
    (selectOne table columns filters).Moves R := by
  refine .bind (.ofExcept _) fun _ => .bind (moves_selected table _) fun rows => ?_
  cases rows with
  | nil => exact .pure _
  | cons row rows => exact .ofExcept _

theorem moves_query (table : Value) (options : Query.Options) : (query table options).Moves R := by
  refine .bind (.ofExcept _) fun checked => .bind (moves_selected table _) fun rows => ?_
  -- the same end for rows that are put in order and for those that are not
  have ending (rows : Table) : (do
      let rows := page checked.limit checked.offset rows
      let rows ← Action.ofExcept (projectAll options.select rows)
      if options.single.truthy then return rows.headD .null else return .list rows :
        Work Value).Moves R := by
    refine .bind (.ofExcept _) fun rows => ?_
    cases options.single.truthy <;> exact .pure _
  cases options.ordering with
  | none => exact .bind (.pure _) ending
  | some ordering => exact .bind (.ofExcept _) ending

theorem moves_count (table : Value) (filters : Filters) : (count table filters).Moves R :=
  .bind (.ofExcept _) fun _ => .bind (moves_selected table _) fun _ => .pure _

/-! ## The kept session -/

theorem keepSession_apply {host : Host Backend} {session : Session}
    (current : host.session = some session) :
    keepSession host = Host.onBackend (Backend.keep sessionKey (keptSession session)) host := by
  rw [keepSession, Action.bind_get, current]

/-- Keeping a session does nothing to it. -/
theorem session_keepSession (host : Host Backend) : (keepSession host).2.session = host.session := by
  cases current : host.session with
  | none =>
      rw [keepSession, Action.bind_get, current]
      exact current
  | some session =>
      rw [keepSession_apply current]
      exact current

/-! ## Parts of mutations -/

section Parts

variable (covers : Covers names R)

include covers

theorem moves_save : save.Moves R := by
  intro host
  have kept (v : Value) :
      R host { host with backend := (Backend.keep snapshotKey v host.backend).2 } := by
    cases written : host.backend.store.write snapshotKey v with
    | error fault =>
        have ran : Backend.keep snapshotKey v host.backend = (.error fault, host.backend) :=
          Action.ofExcept_bind_error written _ host.backend
        rw [ran]
        exact refl_of R host
    | ok store =>
        have ran : Backend.keep snapshotKey v host.backend = (.ok (), { host.backend with store }) :=
          Action.ofExcept_bind_ok written _ host.backend
        rw [ran]
        exact covers.saved host v store written
  rw [save, Host.onBackend_apply, Backend.save, Action.bind_get]
  cases said : Tables.snapshot host.backend.tables with
  | error fault => exact refl_of R host
  | ok v => exact kept v

theorem moves_generateId : (Host.onBackend (Backend.generateId moment)).Moves R := by
  intro host
  rw [Host.onBackend_apply, Backend.generateId]
  cases moment.millis with
  | error fault => exact refl_of R host
  | ok millis => exact covers.counted host _

theorem moves_newRecord (row : Record) : (newRecord moment row).Moves R := by
  have identified : (idFor moment row).Moves R := by
    unfold idFor
    dsimp only
    split
    · exact .map _ (moves_generateId covers)
    · exact .pure _
  exact .bind identified fun _ => .pure _

theorem moves_newRecords (rows : List Record) : (newRecords moment rows).Moves R := by
  induction rows generalizing moment with
  | nil => exact .pure _
  | cons row rows ih => exact .bind (moves_newRecord covers row) fun _ => .bind ih fun _ => .pure _

end Parts

/-! ## Mutations -/

section Table

variable (covers : Covers names R) {table : Value}
  (own : ∀ name, Key.ofValue table = .ok name → names name)

include covers own

theorem moves_putTable (rows : Table) : (putTable table rows).Moves R := by
  intro host
  rw [putTable]
  cases named : Key.ofValue table with
  | error fault => exact refl_of R host
  | ok name => exact covers.put host name rows (own name named)

theorem moves_ensureTable : (ensureTable table).Moves R := by
  intro host
  rw [ensureTable]
  cases named : Key.ofValue table with
  | error fault => exact refl_of R host
  | ok name =>
      rw [Action.ofExcept_bind_ok rfl, Action.bind_get]
      cases Fields.get? host.backend.tables name with
      | none => exact covers.put host name [] (own name named)
      | some rows => exact refl_of R host

theorem moves_insertRows (rows : List Record) : (insertRows moment table rows).Moves R :=
  .bind (moves_ensureTable covers own) fun _ => .bind (moves_newRecords covers rows) fun _ =>
    .bind (moves_rowsOfTable table) fun _ => .bind (moves_putTable covers own _) fun _ =>
      .bind (moves_save covers) fun _ => .pure _

theorem moves_insert (data : Value) : (insert moment table data).Moves R := by
  refine .bind (.ofExcept _) fun rows => .bind (moves_insertRows covers own rows) fun _ => ?_
  cases data.isObject <;> exact .pure _

theorem moves_insertMany (rows : Value) : (insertMany moment table rows).Moves R :=
  .bind (.ofExcept _) fun rows => .map _ (moves_insertRows covers own rows)

theorem moves_rewriteRows (test : Value → Except Fault Bool) (patch : Value) (rows : Table) :
    (rewriteRows moment table test patch rows).Moves R :=
  .bind (moves_putTable covers own _) fun _ => .ofExcept _

theorem moves_update (filters : Filters) (patch : Value) :
    (update moment table filters patch).Moves R :=
  .bind (.ofExcept _) fun _ => .bind (moves_requireTable table) fun _ =>
    .bind (moves_rewriteRows covers own _ patch _) fun _ => .bind (moves_save covers) fun _ => .pure _

theorem moves_delete (filters : Filters) : (delete table filters).Moves R :=
  .bind (.ofExcept _) fun _ => .bind (moves_requireTable table) fun _ => .bind (.ofExcept _) fun _ =>
    .bind (moves_putTable covers own _) fun _ => .bind (moves_save covers) fun _ => .pure _

theorem moves_upsertRow (record : Record) : (upsertRow moment table record).Moves R := by
  refine .bind (moves_rowsOfTable table) fun rows => .bind (.ofExcept _) fun index => ?_
  cases index with
  | none =>
      exact .bind (moves_newRecord covers record) fun _ =>
        .bind (moves_putTable covers own _) fun _ => .pure _
  | some index =>
      exact .bind (.ofExcept _) fun _ => .bind (moves_putTable covers own _) fun _ => .pure _

theorem moves_upsertRows (records : List Record) : (upsertRows moment table records).Moves R := by
  induction records generalizing moment with
  | nil => exact .pure _
  | cons record records ih =>
      exact .bind (moves_upsertRow covers own record) fun _ => .bind ih fun _ => .pure _

theorem moves_upsert (data : Value) : (upsert moment table data).Moves R := by
  refine .bind (moves_ensureTable covers own) fun _ => .bind (.ofExcept _) fun records =>
    .bind (moves_upsertRows covers own records) fun _ => .bind (moves_save covers) fun _ => ?_
  cases data.isObject <;> exact .pure _

end Table

/-! ## The tables of users and accounts -/

theorem ofValue_text (text : String) : Key.ofValue (.text text) = .ok (.ofText text) := rfl

/-- A table that is named by a text has one name. -/
theorem own_of_text {text : String} (own : names (.ofText text)) (name : Key)
    (named : Key.ofValue (.text text) = .ok name) : names name := by
  cases (ofValue_text text).symm.trans named
  exact own

theorem moves_changeUsers (covers : Covers names R) (users : names (.ofText "users"))
    (principal patch : Value) : (changeUsers moment principal patch).Moves R := by
  refine .bind .get fun host => ?_
  cases Fields.has host.backend.tables (.ofText "users") with
  | false => exact .pure _
  | true =>
      exact .bind (moves_rowsOfTable usersTable) fun rows =>
        .bind (moves_rewriteRows covers (own_of_text users) _ patch rows) fun _ => .pure _

end DataGateway.Offline
