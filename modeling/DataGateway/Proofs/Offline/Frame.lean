import DataGateway.Offline.Adapter
import DataGateway.Proofs.Except
import DataGateway.Proofs.Fields
import DataGateway.Proofs.Offline.Work
import DataGateway.Proofs.Store.Entry

/-!
# What the offline adapter leaves alone

Steps that change neither the tables nor the stored snapshot, and the spec of each step that does.

* `Backend.contents` — the tables and the stored snapshot;
* `fixes_select`, …, `fixes_isAuthenticated` — reading, and all that has to do with the session alone,
  leaves the contents alone.
-/

namespace DataGateway

/-- The snapshot in a store in memory. -/
def Store.snapshot? : Store → Option Value
  | memory entries => Fields.get? entries Offline.snapshotKey
  | directory _ => none

namespace Offline

/-- The tables and the stored snapshot. -/
def Backend.contents (backend : Backend) : Tables × Option Value :=
  (backend.tables, backend.store.snapshot?)

/-- All but the last generated id. -/
def Backend.holdings (backend : Backend) : Tables × Store := (backend.tables, backend.store)

/-- A step that leaves the tables and the stored snapshot alone. -/
abbrev KeepsContents {α : Type} (step : Work α) : Prop := FixesBackend Backend.contents step

/-! ## The store -/

theorem snapshot?_write_session {store after : Store} {v : Value}
    (written : store.write sessionKey v = .ok after) : after.snapshot? = store.snapshot? := by
  cases store with
  | memory entries =>
      rcases Store.write_memory_eq_ok_iff.1 written with ⟨_, rfl⟩
      exact Fields.get?_set_of_ne (by decide)
  | directory entries =>
      rcases map_eq_ok_iff.1 written with ⟨files, _, rfl⟩
      rfl

theorem snapshot?_remove_session {store after : Store} {removed : Bool}
    (gone : store.remove sessionKey = .ok (removed, after)) : after.snapshot? = store.snapshot? := by
  cases store with
  | memory entries =>
      cases gone
      exact Fields.get?_erase_of_ne (by decide)
  | directory entries =>
      rcases bind_eq_ok_iff.1 gone with ⟨⟨removed, entries⟩, _, gone⟩
      cases gone
      rfl

theorem fixes_forget : profile.forget.Fixes Backend.contents := by
  intro backend
  cases gone : backend.store.remove sessionKey with
  | error fault =>
      have ran : profile.forget backend = (.error fault, backend) :=
        Action.ofExcept_bind_error gone _ backend
      rw [ran]
  | ok result =>
      have ran : profile.forget backend = (.ok (), { backend with store := result.2 }) :=
        Action.ofExcept_bind_ok gone _ backend
      rw [ran]
      exact Prod.ext rfl (snapshot?_remove_session gone)

theorem fixes_keepSession (v : Value) : (Backend.keep sessionKey v).Fixes Backend.contents := by
  intro backend
  cases written : backend.store.write sessionKey v with
  | error fault =>
      have ran : Backend.keep sessionKey v backend = (.error fault, backend) :=
        Action.ofExcept_bind_error written _ backend
      rw [ran]
  | ok store =>
      have ran : Backend.keep sessionKey v backend = (.ok (), { backend with store }) :=
        Action.ofExcept_bind_ok written _ backend
      rw [ran]
      exact Prod.ext rfl (snapshot?_write_session written)

theorem keeps_keepSession : KeepsContents keepSession := by
  refine .bind .get fun host => ?_
  cases host.session with
  | none => exact .pure _
  | some session => exact Host.fixes_onBackend (fixes_keepSession _)

theorem fixes_restoreSession {γ : Type} {view : Backend → γ} :
    FixesBackend view restoreSession := by
  refine .bind .get fun host => ?_
  cases host.session.isSome with
  | true => exact .pure _
  | false =>
      refine .bind (.ofExcept _) fun stored => ?_
      cases sessionOf? stored with
      | none => exact .pure _
      | some session => exact Profile.fixes_startSession _ _

/-! ## Rows -/

section Reading

variable {γ : Type} {view : Backend → γ}

theorem fixes_rowsOfTable (table : Value) : FixesBackend view (rowsOfTable table) :=
  (moves_rowsOfTable table).fixes

theorem fixes_requireTable (table : Value) : FixesBackend view (requireTable table) :=
  (moves_requireTable table).fixes

end Reading

/-! ## New records -/

/-- Generating an id leaves all but the last id alone. -/
theorem fixes_generateId (moment : Moment) :
    (Backend.generateId moment).Fixes Backend.holdings := by
  refine .bind (.ofExcept _) fun millis => ?_
  intro backend
  rfl

theorem fixes_newRecord (moment : Moment) (row : Record) :
    FixesBackend Backend.holdings (newRecord moment row) := by
  have identified : FixesBackend Backend.holdings (idFor moment row) := by
    unfold idFor
    dsimp only
    split
    · exact .map _ (Host.fixes_onBackend (fixes_generateId moment))
    · exact .pure _
  exact .bind identified fun _ => .pure _

theorem fixes_newRecords (moment : Moment) (rows : List Record) :
    FixesBackend Backend.holdings (newRecords moment rows) := by
  induction rows generalizing moment with
  | nil => exact .pure _
  | cons row rows ih =>
      exact .bind (fixes_newRecord moment row) fun _ => .bind (ih moment.next) fun _ => .pure _

/-! ## The store while tables change -/

theorem fixes_ensureTable (table : Value) : FixesBackend Backend.store (ensureTable table) := by
  refine .bind (.ofExcept _) fun name => .bind .get fun host => ?_
  cases Fields.get? host.backend.tables name with
  | none => exact .bind (Host.fixes_onBackend fun _ => rfl) fun _ => .pure _
  | some rows => exact .pure rows

theorem fixes_putTable (table : Value) (rows : Table) :
    FixesBackend Backend.store (putTable table rows) :=
  .bind (.ofExcept _) fun _ => Host.fixes_onBackend fun _ => rfl

theorem fixes_rewriteRows (moment : Moment) (table : Value) (test : Value → Except Fault Bool)
    (patch : Value) (rows : Table) :
    FixesBackend Backend.store (rewriteRows moment table test patch rows) :=
  .bind (fixes_putTable table _) fun _ => .ofExcept _

theorem fixes_changeUsers (moment : Moment) (principal patch : Value) :
    FixesBackend Backend.store (changeUsers moment principal patch) := by
  refine .bind .get fun host => ?_
  cases Fields.has host.backend.tables (.ofText "users") with
  | false => exact .pure _
  | true =>
      refine .bind (fixes_rowsOfTable usersTable) fun rows => ?_
      exact .bind (fixes_rewriteRows moment usersTable _ patch rows) fun _ => .pure _

theorem fixes_upsertRow (moment : Moment) (table : Value) (record : Record) :
    FixesBackend Backend.store (upsertRow moment table record) := by
  refine .bind (fixes_rowsOfTable table) fun rows => .bind (.ofExcept _) fun index => ?_
  cases index with
  | none =>
      refine .bind ((fixes_newRecord moment record).comp Prod.snd) fun new => ?_
      exact .bind (fixes_putTable table _) fun _ => .pure _
  | some index => exact .bind (.ofExcept _) fun _ => .bind (fixes_putTable table _) fun _ => .pure _

theorem fixes_upsertRows (moment : Moment) (table : Value) (records : List Record) :
    FixesBackend Backend.store (upsertRows moment table records) := by
  induction records generalizing moment with
  | nil => exact .pure _
  | cons record records ih =>
      exact .bind (fixes_upsertRow moment table record) fun _ => .bind (ih moment.next) fun _ => .pure _

/-! ## Queries -/

theorem keeps_select (table columns : Value) (filters : Filters) :
    KeepsContents (select table columns filters) := (moves_select table columns filters).fixes

theorem keeps_selectOne (table columns : Value) (filters : Filters) :
    KeepsContents (selectOne table columns filters) := (moves_selectOne table columns filters).fixes

theorem keeps_query (table : Value) (options : Query.Options) :
    KeepsContents (query table options) := (moves_query table options).fixes

theorem keeps_count (table : Value) (filters : Filters) : KeepsContents (count table filters) :=
  (moves_count table filters).fixes

/-! ## Sessions -/

theorem keeps_signIn (email password : Value) : KeepsContents (signIn email password) := by
  refine .bind (fixes_rowsOfTable _) fun accounts => .bind (.ofExcept _) fun account => ?_
  cases account with
  | none => exact .fail _
  | some account =>
      refine .bind (fixes_rowsOfTable _) fun users => .bind (.ofExcept _) fun user => ?_
      refine .bind (.ofExcept _) fun principal => .bind (.ofExcept _) fun id => ?_
      exact .bind (.ofExcept _) fun _ => .bind (Profile.fixes_startSession _ _) fun _ =>
        .bind keeps_keepSession fun _ => .pure _

theorem keeps_signOut : KeepsContents signOut :=
  .bind (Profile.fixes_endSession fixes_forget) fun _ => .pure _

theorem fixes_currentUser {γ : Type} {view : Backend → γ} : FixesBackend view currentUser :=
  .bind fixes_restoreSession fun _ => .bind Host.fixes_requireSession fun _ => .ofExcept _

theorem fixes_isAuthenticated {γ : Type} {view : Backend → γ} : FixesBackend view isAuthenticated :=
  .bind fixes_restoreSession fun _ => .bind Host.fixes_hasSession fun _ => .pure _

end Offline

end DataGateway
