import DataGateway.Proofs.Offline.Frame
import DataGateway.Proofs.Value.Key

/-!
# Commits

Every mutation ends by writing the snapshot: when it succeeds, the store says what the tables say,
and when it fails, the store still says what it said before. A change of the profile goes on with keeping
the session, and that may fail when the snapshot has been written.

* `Backend.IsSaved` — the stored snapshot is the normal form of the tables;
* `Tables.Savable` — the tables have a snapshot, so a store in memory takes it;
* `Commits` — after success the tables are saved, after failure the snapshot is as it was, unless there is
  an excuse;
* `commits_insertRows`, …, `commits_importText` — every mutation commits.
-/

namespace DataGateway.Offline

/-! ## Saved tables -/

/-- The stored snapshot is the normal form of the tables. -/
def Backend.IsSaved (backend : Backend) : Prop :=
  ∃ snapshot, Tables.snapshot backend.tables = .ok snapshot ∧
    backend.store.snapshot? = some (Json.normalize snapshot)

/-- Is the store one in memory? -/
def Backend.InMemory (backend : Backend) : Prop := ∃ entries, backend.store = .memory entries

theorem Backend.inMemory_of_snapshot? {backend : Backend} {v : Value}
    (h : backend.store.snapshot? = some v) : backend.InMemory := by
  cases store : backend.store with
  | memory entries => exact ⟨entries, store⟩
  | directory entries =>
      rw [store] at h
      cases h

theorem Backend.IsSaved.inMemory {backend : Backend} (h : backend.IsSaved) : backend.InMemory := by
  rcases h with ⟨snapshot, _, stored⟩
  exact Backend.inMemory_of_snapshot? stored

theorem isSaved_iff_of_contents {backend other : Backend}
    (same : backend.contents = other.contents) : backend.IsSaved ↔ other.IsSaved := by
  rcases Prod.ext_iff.1 same with ⟨tables, stored⟩
  simp only [Backend.contents] at tables stored
  rw [Backend.IsSaved, Backend.IsSaved, tables, stored]

/-- A store in memory keeps whatever has a document. -/
theorem keep_memory {backend : Backend} {entries : Store.Memory} (memory : backend.store = .memory entries)
    (key : String) {v : Value} (writable : Json.Writable v) :
    Backend.keep key v backend =
      (.ok (), { backend with store := .memory (Fields.set entries key (Json.normalize v)) }) := by
  have written : backend.store.write key v =
      .ok (.memory (Fields.set entries key (Json.normalize v))) := by
    rw [memory, Store.write_memory_eq_ok_iff]
    exact ⟨writable, rfl⟩
  exact Action.ofExcept_bind_ok written _ backend

/-- Do the tables have a snapshot? -/
def Tables.Savable (tables : Tables) : Prop := ∃ snapshot, Tables.snapshot tables = .ok snapshot

instance (tables : Tables) : Decidable tables.Savable :=
  match said : Tables.snapshot tables with
  | .ok snapshot => isTrue ⟨snapshot, said⟩
  | .error _ => isFalse fun ⟨_, other⟩ => nomatch said.symm.trans other

theorem Tables.writable_of_snapshot {tables : Tables} {snapshot : Value}
    (said : Tables.snapshot tables = .ok snapshot) : Json.Writable snapshot := by
  rcases map_eq_ok_iff.1 said with ⟨fields, written, rfl⟩
  exact Json.writable_of_objectOf written

/-- Every row of tables with a snapshot can be written. -/
theorem Tables.writable_row {tables : Tables} (savable : tables.Savable) {name : Key} {rows : Table}
    (found : Fields.get? tables name = some rows) {row : Value} (member : row ∈ rows) :
    Json.requireWritable (Json.levelLimit - 2) row = .ok () := by
  have each {tables : Tables} {fields : Record}
      (written : Json.objectOf (Fields.mapValues Value.list tables) = .ok fields) :
      ∀ entry ∈ tables, ∀ row ∈ entry.2, Json.requireWritable (Json.levelLimit - 2) row = .ok () := by
    induction tables generalizing fields with
    | nil => simp
    | cons entry tables ih =>
        rcases bind_eq_ok_iff.1 written with ⟨_, _, written⟩
        rcases check_eq_ok_iff.1 written with ⟨first, written⟩
        rcases bind_eq_ok_iff.1 written with ⟨_, rest, _⟩
        exact List.forall_mem_cons.2 ⟨Json.requireItems_iff.1 first, ih rest⟩
  rcases savable with ⟨_, said⟩
  rcases map_eq_ok_iff.1 said with ⟨_, written, _⟩
  rcases Fields.exists_mem_of_get? found with ⟨_, there⟩
  exact each written _ there row member

/-- Tables with a snapshot are saved in a store in memory. -/
theorem save_memory {backend : Backend} {entries : Store.Memory} {snapshot : Value}
    (memory : backend.store = .memory entries) (said : Tables.snapshot backend.tables = .ok snapshot) :
    Backend.save backend = (.ok (), { backend with
      store := .memory (Fields.set entries snapshotKey (Json.normalize snapshot)) }) :=
  (Action.ofExcept_bind_ok said _ backend).trans
    (keep_memory memory snapshotKey (Tables.writable_of_snapshot said))

theorem save_ok {backend after : Backend} (memory : backend.InMemory)
    (h : Backend.save backend = (.ok (), after)) : after.tables = backend.tables ∧ after.IsSaved := by
  rcases memory with ⟨entries, memory⟩
  cases said : Tables.snapshot backend.tables with
  | error fault =>
      have ran : Backend.save backend = (.error fault, backend) :=
        Action.ofExcept_bind_error said _ backend
      rw [ran] at h
      cases h
  | ok snapshot =>
      rw [save_memory memory said] at h
      cases h
      exact ⟨rfl, snapshot, said, Fields.get?_set_self⟩

theorem save_error {backend after : Backend} {fault : Fault}
    (h : Backend.save backend = (.error fault, after)) : after = backend := by
  cases said : Tables.snapshot backend.tables with
  | error other =>
      have ran : Backend.save backend = (.error other, backend) :=
        Action.ofExcept_bind_error said _ backend
      rw [ran] at h
      cases h
      rfl
  | ok snapshot =>
      have ran : Backend.save backend = Backend.keep snapshotKey snapshot backend :=
        Action.ofExcept_bind_ok said _ backend
      rw [ran] at h
      cases written : backend.store.write snapshotKey snapshot with
      | error other =>
          have kept : Backend.keep snapshotKey snapshot backend = (.error other, backend) :=
            Action.ofExcept_bind_error written _ backend
          rw [kept] at h
          cases h
          rfl
      | ok store =>
          have kept : Backend.keep snapshotKey snapshot backend = (.ok (), { backend with store }) :=
            Action.ofExcept_bind_ok written _ backend
          rw [kept] at h
          cases h

/-! ## Steps that commit -/

/-- After success the tables are saved. After failure the snapshot is as it was; else the tables are saved
and there is an excuse. -/
structure Commits {α : Type} (Excused : Host Backend → Prop) (step : Work α) : Prop where
  saved {host after : Host Backend} {a : α} : host.backend.InMemory →
    step host = (.ok a, after) → after.backend.IsSaved
  kept {host after : Host Backend} {fault : Fault} : host.backend.InMemory →
    step host = (.error fault, after) →
    after.backend.store.snapshot? = host.backend.store.snapshot? ∨
      after.backend.IsSaved ∧ Excused after

/-- Is there a session that cannot be kept? -/
def Unkept (host : Host Backend) : Prop :=
  ∃ session, host.session = some session ∧ ¬Json.Writable (keptSession session)

/-- The tables have no effect on saving them but what they say. -/
theorem save_host {host after : Host Backend} {result : Except Fault Unit}
    (ran : save host = (result, after)) : ∃ backend, Backend.save host.backend = (result, backend) ∧
      after = { host with backend } := by
  rw [Offline.save, Host.onBackend_apply] at ran
  rcases ran' : Backend.save host.backend with ⟨outcome, backend⟩
  rw [ran'] at ran
  cases ran
  exact ⟨backend, rfl, rfl⟩

namespace Commits

variable {α β : Type} {Excused : Host Backend → Prop}

theorem save : Commits Excused save where
  saved := by
    intro host after _ memory ran
    rcases save_host ran with ⟨backend, result, rfl⟩
    exact (save_ok memory result).2
  kept := by
    intro host after fault memory ran
    rcases save_host ran with ⟨backend, result, rfl⟩
    exact .inl (congrArg (fun backend => backend.store.snapshot?) (save_error result))

theorem mono {Other : Host Backend → Prop} {step : Work α} (commits : Commits Excused step)
    (weaker : ∀ host, Excused host → Other host) : Commits Other step where
  saved := commits.saved
  kept memory failed := (commits.kept memory failed).imp_right fun both => ⟨both.1, weaker _ both.2⟩

theorem fail (fault : Fault) : Commits Excused (Action.fail fault : Work α) where
  saved := by
    intro host after a _ ran
    cases ran
  kept := by
    intro host after other _ ran
    cases ran
    exact .inl rfl

/-- Steps before a commit may do anything but write to the store. -/
theorem after {first : Work α} {next : α → Work β} (store : FixesBackend Backend.store first)
    (commits : ∀ a, Commits Excused (next a)) : Commits Excused (first >>= next) where
  saved := by
    intro host after b memory ran
    rcases Action.bind_ok ran with ⟨a, middle, began, ran⟩
    have same : middle.backend.store = host.backend.store := store.after began
    have still : middle.backend.InMemory := by rwa [Backend.InMemory, same]
    exact (commits a).saved still ran
  kept := by
    intro host after fault memory ran
    -- the fault comes before the commit or from it
    rcases Action.bind_error ran with began | ⟨a, middle, began, ran⟩
    · have same : after.backend.store = host.backend.store := store.after began
      exact .inl (congrArg Store.snapshot? same)
    · have same : middle.backend.store = host.backend.store := store.after began
      have still : middle.backend.InMemory := by rwa [Backend.InMemory, same]
      rw [← same]
      exact (commits a).kept still ran

/-- Steps after a commit leave the tables and the snapshot alone, and may not fail without an excuse. -/
theorem andThen {first : Work α} {next : α → Work β} (commits : Commits Excused first)
    (keeps : ∀ a, KeepsContents (next a))
    (excuses : ∀ {host middle after : Host Backend} {a : α} {fault : Fault}, host.backend.InMemory →
      first host = (.ok a, middle) → next a middle = (.error fault, after) → Excused after) :
    Commits Excused (first >>= next) where
  saved := by
    intro host after b memory ran
    rcases Action.bind_ok ran with ⟨a, middle, began, ran⟩
    have saved := commits.saved memory began
    exact (isSaved_iff_of_contents ((keeps a).after ran)).2 saved
  kept := by
    intro host after fault memory ran
    rcases Action.bind_error ran with began | ⟨a, middle, began, ran⟩
    · exact commits.kept memory began
    · have saved := (isSaved_iff_of_contents ((keeps a).after ran)).2 (commits.saved memory began)
      exact .inr ⟨saved, excuses memory began ran⟩

theorem andReturn {first : Work α} (commits : Commits Excused first) (f : α → β) :
    Commits Excused (first >>= fun a => pure (f a)) :=
  commits.andThen (fun _ => .pure _) fun _ _ failed => by cases failed

end Commits

/-! ## Mutations -/

variable {Excused : Host Backend → Prop} (moment : Moment)

theorem commits_insertRows (table : Value) (rows : List Record) :
    Commits Excused (insertRows moment table rows) :=
  .after (fixes_ensureTable table) fun _ =>
    .after ((fixes_newRecords moment rows).comp Prod.snd) fun inserted =>
    .after (fixes_rowsOfTable table) fun _ =>
    .after (fixes_putTable table _) fun _ => .andReturn .save fun _ => inserted

theorem commits_insert (table data : Value) : Commits Excused (insert moment table data) := by
  refine .after (.ofExcept _) fun rows => ?_
  cases data.isObject <;> exact .andReturn (commits_insertRows moment table rows) _

theorem commits_insertMany (table rows : Value) : Commits Excused (insertMany moment table rows) := by
  refine .after (.ofExcept _) fun rows => ?_
  rw [Action.map_eq_bind]
  exact .andReturn (commits_insertRows moment table rows) _

theorem commits_update (table : Value) (filters : Filters) (patch : Value) :
    Commits Excused (update moment table filters patch) :=
  .after (.ofExcept _) fun _ => .after (fixes_requireTable table) fun _ =>
    .after (fixes_rewriteRows moment table _ patch _) fun changed =>
    .andReturn .save fun _ => Value.list changed

theorem commits_delete (table : Value) (filters : Filters) : Commits Excused (delete table filters) :=
  .after (.ofExcept _) fun _ => .after (fixes_requireTable table) fun _ =>
    .after (.ofExcept _) fun (_, removed) => .after (fixes_putTable table _) fun _ =>
    .andReturn .save fun _ => Value.list removed

theorem commits_upsert (table data : Value) : Commits Excused (upsert moment table data) := by
  refine .after (fixes_ensureTable table) fun _ => .after (.ofExcept _) fun records => ?_
  refine .after (fixes_upsertRows moment table records) fun written => ?_
  cases data.isObject <;> exact .andReturn .save _

/-! ## Mutations that go on with the session -/

/-- A session that can be kept is kept in a store in memory. -/
theorem keepSession_ok {host : Host Backend} (memory : host.backend.InMemory) (kept : ¬Unkept host) :
    ∃ after, keepSession host = (.ok (), after) := by
  rcases memory with ⟨entries, memory⟩
  cases current : host.session with
  | none =>
      rw [keepSession, Action.bind_get, current]
      exact ⟨host, rfl⟩
  | some session =>
      have writable : Json.Writable (keptSession session) :=
        not_not.1 fun unwritable => kept ⟨session, current, unwritable⟩
      rw [keepSession_apply current, Host.onBackend_apply, keep_memory memory sessionKey writable]
      exact ⟨_, rfl⟩

/-- Keeping a session fails only if it cannot be kept. -/
theorem unkept_of_keepSession {host after : Host Backend} {fault : Fault}
    (memory : host.backend.InMemory) (failed : keepSession host = (.error fault, after)) :
    Unkept after := by
  have same : after.session = host.session := by
    rw [← session_keepSession host, failed]
  rw [Unkept, same]
  by_contra kept
  rcases keepSession_ok memory kept with ⟨other, fine⟩
  rw [fine] at failed
  cases failed

theorem save_inMemory {host middle : Host Backend} (memory : host.backend.InMemory)
    (ran : save host = (.ok (), middle)) : middle.backend.InMemory := by
  have commits : Commits (fun _ => False) save := .save
  exact (commits.saved memory ran).inMemory

theorem commits_updateProfile (params : Value) : Commits Unkept (updateProfile moment params) := by
  refine .after Host.fixes_requireSession fun session => ?_
  refine .after (.ofExcept _) fun fields => .after (.ofExcept _) fun update => ?_
  refine .after (Host.fixes_setPrincipal session _) fun _ => ?_
  refine .after (fixes_changeUsers moment _ _) fun _ => ?_
  refine .andThen .save (fun _ => .bind keeps_keepSession fun _ => .pure _) ?_
  intro host middle after _ fault memory saved failed
  rcases Action.bind_error failed with failed | ⟨_, _, _, failed⟩
  · exact unkept_of_keepSession (save_inMemory memory saved) failed
  · cases failed

/-- In the session a user is not as far inside as in the tables, so what can be saved can be kept. -/
theorem writable_keptSession {user : Value}
    (row : Json.requireWritable (Json.levelLimit - 2) user = .ok ()) (token : String) :
    Json.Writable (keptSession ⟨.text token, user⟩) :=
  Json.requireFields_iff.2 (List.forall_mem_cons.2 ⟨rfl, List.forall_mem_singleton.2
    (Json.requireWritable_mono (by decide) row)⟩)

theorem tokenFor_ok {id : Value} (printable : id.isPrintable = true) :
    tokenFor id = .ok (.text ("mock-token-" ++ id.display)) := by
  rw [tokenFor, Value.printed_of_isPrintable printable]
  rfl

/-- A session that can be kept begins, and is kept. -/
theorem begin_ok {host : Host Backend} (memory : host.backend.InMemory) {token : String} {user : Value}
    (writable : Json.Writable (keptSession ⟨.text token, user⟩)) : ∃ after, (do
        profile.startSession (.text token) user
        keepSession
        return user : Work Value) host = (.ok user, after) := by
  rcases profile.startSession_ok (.text token) user host with ⟨middle, started, current, same⟩
  have kept : ¬Unkept middle := by
    rintro ⟨session, there, unwritable⟩
    rw [current, Option.some.injEq] at there
    rw [← there] at unwritable
    exact unwritable writable
  rcases keepSession_ok (same ▸ memory : middle.backend.InMemory) kept with ⟨after, ended⟩
  exact ⟨after, (Action.bind_of_ok started).trans (Action.bind_of_ok ended)⟩

/-- A session for a user in tables that are saved begins, and is kept. -/
theorem enter_ok {host : Host Backend} {moment : Moment} {id email name : Value} {rows : Table}
    (saved : host.backend.IsSaved) (found : Fields.get? host.backend.tables (.ofText "users") =
      some (rows ++ [newUser moment id email name])) : ∃ after, (do
        profile.startSession (← Action.ofExcept (tokenFor id)) (newUser moment id email name)
        keepSession
        return newUser moment id email name : Work Value) host =
      (.ok (newUser moment id email name), after) := by
  have row : Json.requireWritable (Json.levelLimit - 2) (newUser moment id email name) = .ok () := by
    rcases saved with ⟨snapshot, said, _⟩
    exact Tables.writable_row ⟨snapshot, said⟩ found
      (List.mem_append_right _ (List.mem_singleton_self _))
  have printable : id.isPrintable = true :=
    Json.isPrintable_of_requireWritable (Json.requireFields_iff.1 row ("id", id) (List.mem_cons_self ..))
  rcases begin_ok saved.inMemory (writable_keptSession row ("mock-token-" ++ id.display)) with
    ⟨after, begun⟩
  exact ⟨after, (Action.ofExcept_bind_ok (tokenFor_ok printable) _ host).trans begun⟩

theorem commits_signUp (email password : Value) : Commits Excused (signUp moment email password) := by
  refine .after (.ofExcept _) fun _ => .after (fixes_ensureTable _) fun accounts => ?_
  refine .after (.ofExcept _) fun _ => ?_
  refine .after (.map _ (Host.fixes_onBackend ((fixes_generateId moment).comp Prod.snd))) fun id => ?_
  refine .after (.ofExcept _) fun name => .after (fixes_putTable _ _) fun _ => ?_
  refine .after (fixes_ensureTable _) fun users => ?_
  dsimp only
  rw [← bind_assoc]
  refine .andThen (.after (fixes_putTable _ _) fun _ => .save) (fun _ => ?_) ?_
  · exact .bind (.ofExcept _) fun _ => .bind (Profile.fixes_startSession _ _) fun _ =>
      .bind keeps_keepSession fun _ => .pure _
  · intro host middle after _ fault memory ran failed
    -- a user that is saved can be a session, and a store in memory keeps it
    have commits : Commits (fun _ => False) (do
        putTable usersTable (users ++ [newUser moment id email name])
        save : Work Unit) := .after (fixes_putTable _ _) fun _ => .save
    have saved := commits.saved memory ran
    have found : Fields.get? middle.backend.tables (.ofText "users") =
        some (users ++ [newUser moment id email name]) := by
      rcases Action.bind_ok ran with ⟨_, put, began, ran⟩
      have placed : put.backend.InMemory ∧ Fields.get? put.backend.tables (.ofText "users") =
          some (users ++ [newUser moment id email name]) := by
        cases began
        exact ⟨memory, Fields.get?_set_self⟩
      rcases save_host ran with ⟨backend, result, rfl⟩
      rw [(save_ok placed.1 result).1]
      exact placed.2
    rcases enter_ok saved found with ⟨other, fine⟩
    rw [fine] at failed
    cases failed

theorem commits_importText (document : Value) : Commits Excused (importText document) := by
  refine .after (.ofExcept _) fun chars => ?_
  cases Json.decode chars with
  | error problem =>
      dsimp only
      split <;> exact .fail _
  | ok v =>
      dsimp only
      cases tablesOf? v with
      | none => exact .fail _
      | some tables => exact .after (Host.fixes_onBackend fun _ => rfl) fun _ => .save

end DataGateway.Offline
