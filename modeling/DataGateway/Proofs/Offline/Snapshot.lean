import DataGateway.Proofs.Json.Normal
import DataGateway.Proofs.Offline.Commit
import DataGateway.Proofs.Offline.Run
import DataGateway.Proofs.Offline.Sparing
import DataGateway.Proofs.Value.Comparison
import DataGateway.Proofs.Value.Key

/-!
# The stored snapshot

The snapshot in the store follows the tables, over every run of an adapter on a store in memory.

* `Backend.Holds` — the snapshot is an object of tables in normal form;
* `start?_of_holds` — what a new adapter makes of such a snapshot;
* `run_follows` — what one event does to the snapshot;
* `snapshot_follows_tables` — the same for every reachable state, and what a restart finds there.
-/

namespace DataGateway.Offline

/-! ## Tables with names -/

/-- Tables under the keys that their names are. -/
def Tables.ofNamed (named : Fields Table) : Tables :=
  named.map fun (name, rows) => (.ofText name, rows)

/-- The snapshot of tables with names. -/
def Tables.said (named : Fields Table) : Value := .object (Fields.mapValues .list named)

namespace Tables

theorem snapshot_ofNamed_iff {named : Fields Table} {v : Value} :
    snapshot (ofNamed named) = .ok v ↔ Json.Writable (said named) ∧ v = said named := by
  have written (named : Fields Table) (fields : Record) :
      Json.objectOf (Fields.mapValues Value.list (ofNamed named)) = .ok fields ↔
        Json.requireFields (Json.levelLimit - 1) (Fields.mapValues Value.list named) = .ok () ∧
          fields = Fields.mapValues Value.list named := by
    induction named generalizing fields with
    | nil => exact ⟨fun same => ⟨rfl, (Except.ok.inj same).symm⟩, fun both => congrArg _ both.2.symm⟩
    | cons entry named ih =>
        rcases entry with ⟨name, rows⟩
        have unfolded : Json.objectOf (Fields.mapValues Value.list (ofNamed ((name, rows) :: named))) =
            (do
              Json.requireWritable (Json.levelLimit - 1) (.list rows)
              return (name, Value.list rows) ::
                (← Json.objectOf (Fields.mapValues Value.list (ofNamed named)))) := rfl
        have checks : Json.requireFields (Json.levelLimit - 1)
            (Fields.mapValues Value.list ((name, rows) :: named)) = (do
              Json.requireWritable (Json.levelLimit - 1) (.list rows)
              Json.requireFields (Json.levelLimit - 1) (Fields.mapValues Value.list named)) := rfl
        rw [unfolded, checks, check_eq_ok_iff, check_eq_ok_iff, and_assoc]
        refine and_congr_right fun _ => ?_
        rw [bind_eq_ok_iff]
        constructor
        · rintro ⟨others, later, same⟩
          rcases (ih others).1 later with ⟨rest, rfl⟩
          exact ⟨rest, (Except.ok.inj same).symm⟩
        · rintro ⟨rest, rfl⟩
          exact ⟨_, (ih _).2 ⟨rest, rfl⟩, rfl⟩
  rw [snapshot, map_eq_ok_iff]
  constructor
  · rintro ⟨fields, wrote, rfl⟩
    rcases (written named fields).1 wrote with ⟨writable, rfl⟩
    exact ⟨writable, rfl⟩
  · rintro ⟨writable, rfl⟩
    exact ⟨_, (written named _).2 ⟨writable, rfl⟩, rfl⟩

theorem snapshot_ofNamed {named : Fields Table} (writable : Json.Writable (said named)) :
    snapshot (ofNamed named) = .ok (said named) := snapshot_ofNamed_iff.2 ⟨writable, rfl⟩

theorem ofSnapshot_said (named : Fields Table) :
    ofSnapshot (Fields.mapValues Value.list named) = ofNamed named := by
  simp [ofSnapshot, ofNamed, Fields.mapValues, List.filterMap_map]

theorem exists_said {fields : Record} (lists : ∀ field ∈ fields, ∃ rows, field.2 = .list rows) :
    ∃ named, .object fields = said named := by
  induction fields with
  | nil => exact ⟨[], rfl⟩
  | cons field fields ih =>
      rcases field with ⟨name, v⟩
      rcases lists (name, v) (List.mem_cons_self ..) with ⟨rows, rfl⟩
      rcases ih fun f hf => lists f (List.mem_cons_of_mem _ hf) with ⟨named, same⟩
      have others : fields = Fields.mapValues .list named := by simpa [said] using same
      exact ⟨(name, rows) :: named, by rw [others]; rfl⟩

theorem eq_list_of_objectOf {tables : Tables} {fields : Record}
    (h : Json.objectOf (Fields.mapValues Value.list tables) = .ok fields) :
    ∀ field ∈ fields, ∃ rows, field.2 = .list rows := by
  induction tables generalizing fields with
  | nil =>
      cases h
      intro field hf
      cases hf
  | cons first tables ih =>
      rcases bind_eq_ok_iff.1 h with ⟨name, _, h⟩
      rcases check_eq_ok_iff.1 h with ⟨_, h⟩
      rcases bind_eq_ok_iff.1 h with ⟨rest, others, h⟩
      cases h
      intro field hf
      rcases List.mem_cons.1 hf with rfl | hf
      · exact ⟨first.2, rfl⟩
      · exact ih others field hf

/-- A snapshot has nothing but lists in it. -/
theorem exists_said_of_snapshot {tables : Tables} {v : Value} (h : snapshot tables = .ok v) :
    ∃ named, v = said named := by
  cases written : Json.objectOf (Fields.mapValues Value.list tables) with
  | error fault =>
      rw [snapshot, written] at h
      cases h
  | ok fields =>
      rw [snapshot, written] at h
      cases h
      exact exists_said (eq_list_of_objectOf written)

theorem exists_said_of_normalize (named : Fields Table) :
    ∃ stored, Json.normalize (said named) = said stored := by
  apply exists_said
  intro field hf
  rcases field with ⟨name, v⟩
  rcases Json.mem_normalizeFields.1 (Fields.mem_ofPairs hf) with ⟨u, hu, rfl⟩
  rcases List.mem_map.1 hu with ⟨⟨other, rows⟩, _, same⟩
  cases same
  exact ⟨_, rfl⟩

end Tables

/-! ## What the store holds -/

/-- The stored snapshot is an object of tables, and its own normal form, and can be written again. -/
structure Backend.Holds (backend : Backend) (stored : Fields Table) : Prop where
  said : backend.store.snapshot? = some (Tables.said stored)
  normal : Json.normalize (Tables.said stored) = Tables.said stored
  writable : Json.Writable (Tables.said stored)

theorem Backend.IsSaved.holds {backend : Backend} (saved : backend.IsSaved) :
    ∃ stored, backend.Holds stored := by
  rcases saved with ⟨v, tables, said⟩
  -- the normal form of an object of lists is an object of lists again
  rcases Tables.exists_said_of_snapshot tables with ⟨named, rfl⟩
  rcases Tables.exists_said_of_normalize named with ⟨stored, normal⟩
  have writable := (Tables.writable_of_snapshot tables).normalize
  refine ⟨stored, by rw [said, normal], ?_, normal ▸ writable⟩
  rw [← normal, Json.normalize_normalize]

/-- Of a snapshot there is a copy to be read. -/
theorem read_of_snapshot? {store : Store} {v : Value} (h : store.snapshot? = some v) :
    store.read snapshotKey = Store.Memory.copyOut v := by
  cases store with
  | memory entries =>
      have found : Fields.get? entries snapshotKey = some v := h
      rw [Store.read, Store.Memory.read, found]
      rfl
  | directory entries => cases h

/-- Can the stored snapshot be read? -/
def Backend.Readable (backend : Backend) : Prop :=
  ∀ v, backend.store.snapshot? = some v → Store.Memory.Copyable v

instance (backend : Backend) : Decidable backend.Readable :=
  inferInstanceAs (Decidable (∀ v ∈ backend.store.snapshot?, Store.Memory.Copyable v))

/-! ## Default tables -/

/-- The default tables that are missing. -/
def missingDefaults (stamp : String) (tables : Tables) : Tables :=
  (defaultTables stamp).filter fun (name, _) => !Fields.has tables name

theorem missingDefaults_nil (stamp : String) : missingDefaults stamp [] ≠ [] :=
  List.cons_ne_nil _ _

theorem has_append {α κ : Type} [BEq κ] (fields others : Fields α κ) (name : κ) :
    Fields.has (fields ++ others) name = (Fields.has fields name || Fields.has others name) := by
  simp [Fields.has, List.lookup_append, Option.isSome_or]

theorem withDefaults_eq (stamp : String) (tables : Tables) :
    withDefaults stamp tables = tables ++ missingDefaults stamp tables := by
  have apart : (Key.ofText "auth_users" == Key.ofText "users") = false := by
    rw [Key.ofText_beq]
    decide
  -- adding the users does not make the accounts appear
  have still (rows : Table) : Fields.has (tables ++ [(Key.ofText "users", rows)])
      (Key.ofText "auth_users") = Fields.has tables (Key.ofText "auth_users") := by
    rw [has_append]
    simp [Fields.has, List.lookup_cons, apart]
  unfold withDefaults missingDefaults defaultTables
  cases users : Fields.has tables (Key.ofText "users") <;>
    cases accounts : Fields.has tables (Key.ofText "auth_users") <;>
    simp [users, accounts, still]

/-- The default tables have names, and can be written. -/
theorem exists_named_missingDefaults (stamp : String) (tables : Tables) :
    ∃ named, missingDefaults stamp tables = Tables.ofNamed named ∧
      Json.Writable (Tables.said named) := by
  unfold missingDefaults defaultTables
  cases users : Fields.has tables (Key.ofText "users") <;>
    cases accounts : Fields.has tables (Key.ofText "auth_users") <;>
    simp only [users, accounts, List.filter_cons, List.filter_nil, Bool.not_true, Bool.not_false,
      Bool.false_eq_true, if_true, if_false]
  · exact ⟨[("users", _), ("auth_users", _)], rfl, rfl⟩
  · exact ⟨[("users", _)], rfl, rfl⟩
  · exact ⟨[("auth_users", _)], rfl, rfl⟩
  · exact ⟨[], rfl, rfl⟩

/-! ## Starting -/

theorem isSaved_of_holds {backend : Backend} {stored : Fields Table} (holds : backend.Holds stored)
    (same : backend.tables = Tables.ofNamed stored) : backend.IsSaved := by
  refine ⟨Tables.said stored, ?_, ?_⟩
  · rw [same, Tables.snapshot_ofNamed holds.writable]
  · rw [holds.normal, holds.said]

theorem save_ofNamed {backend : Backend} (memory : backend.InMemory) {named : Fields Table}
    (tables : backend.tables = Tables.ofNamed named) (writable : Json.Writable (Tables.said named)) :
    ∃ after, Backend.save backend = (.ok (), after) ∧ after.tables = backend.tables ∧
      after.IsSaved := by
  have said : Tables.snapshot backend.tables = .ok (Tables.said named) := by
    rw [tables, Tables.snapshot_ofNamed writable]
  rcases memory with ⟨entries, store⟩
  have ran := save_memory store said
  exact ⟨_, ran, save_ok ⟨entries, store⟩ ran⟩

theorem ofNamed_append (named others : Fields Table) :
    Tables.ofNamed (named ++ others) = Tables.ofNamed named ++ Tables.ofNamed others := by
  simp [Tables.ofNamed]

theorem Tables.writable_append {named others : Fields Table} (first : Json.Writable (said named))
    (second : Json.Writable (said others)) : Json.Writable (said (named ++ others)) := by
  have both := List.forall_mem_append.2
    ⟨Json.requireFields_iff.1 first, Json.requireFields_iff.1 second⟩
  refine Json.requireFields_iff.2 ?_
  rwa [Fields.mapValues, List.map_append]

/-- Seeding adds the missing tables, and then the tables are saved. -/
theorem seed_ok (moment : Moment) {backend : Backend} (memory : backend.InMemory)
    {named : Fields Table} (tables : backend.tables = Tables.ofNamed named)
    (writable : Json.Writable (Tables.said named))
    (saved : missingDefaults moment.stamp backend.tables = [] → backend.IsSaved) :
    ∃ after, Backend.seed moment backend = (.ok (), after) ∧
      after.tables = backend.tables ++ missingDefaults moment.stamp backend.tables ∧
      after.IsSaved := by
  rw [Backend.seed, Action.bind_get, withDefaults_eq]
  cases missing : missingDefaults moment.stamp backend.tables with
  | nil =>
      -- nothing is missing, so nothing is written: the tables have to be saved already
      simp only [List.append_nil, bne_self_eq_false, Bool.false_eq_true, if_false]
      exact ⟨backend, rfl, rfl, saved missing⟩
  | cons first rest =>
      have longer : ((backend.tables ++ first :: rest).length != backend.tables.length) = true := by
        simp
      simp only [longer, if_true]
      rcases exists_named_missingDefaults moment.stamp backend.tables with ⟨others, named', fit⟩
      have all : backend.tables ++ first :: rest = Tables.ofNamed (named ++ others) := by
        rw [← missing, named', tables, ofNamed_append]
      have still : Backend.InMemory { backend with tables := backend.tables ++ first :: rest } :=
        memory
      rcases save_ofNamed still all (Tables.writable_append writable fit) with
        ⟨after, ran, same, saved⟩
      exact ⟨after, ran, same, saved⟩

theorem start?_of_read (moment : Moment) {store : Store} {v : Value} {next : Backend}
    (read : store.read snapshotKey = .ok v)
    (ran : Backend.seed moment { tables := Backend.tablesOfStored v, store } = (.ok (), next)) :
    Backend.start? moment store = .ok next := by
  have seeded : (Backend.seed moment).run { tables := Backend.tablesOfStored v, store } =
      (.ok (), next) := ran
  rw [Backend.start?, read]
  simp only [bind, Except.bind]
  rw [seeded]
  rfl

theorem Backend.Holds.readable_iff {backend : Backend} {stored : Fields Table}
    (holds : backend.Holds stored) :
    backend.Readable ↔ Store.Memory.Copyable (Tables.said stored) := by
  constructor
  · intro readable
    exact readable _ holds.said
  · intro copyable v found
    rw [holds.said] at found
    cases found
    exact copyable

/-- What a new adapter makes of a snapshot that it can read: the stored tables in their order, and behind
them the default tables that the snapshot does not have. -/
theorem start?_of_holds (moment : Moment) {backend : Backend} {stored : Fields Table}
    (holds : backend.Holds stored) (readable : backend.Readable) :
    ∃ next, Backend.start? moment backend.store = .ok next ∧
      next.tables = Tables.ofNamed stored ++
        missingDefaults moment.stamp (Tables.ofNamed stored) ∧
      next.IsSaved := by
  let loaded : Backend := { tables := Tables.ofNamed stored, store := backend.store }
  have held : loaded.Holds stored := ⟨holds.said, holds.normal, holds.writable⟩
  have memory : loaded.InMemory := Backend.inMemory_of_snapshot? held.said
  rcases seed_ok moment memory rfl held.writable fun _ => isSaved_of_holds held rfl with
    ⟨next, ran, tables, saved⟩
  have found : Backend.tablesOfStored (Tables.said stored) = Tables.ofNamed stored :=
    Tables.ofSnapshot_said stored
  have began : Backend.seed moment
      { tables := Backend.tablesOfStored (Tables.said stored), store := backend.store } =
        (.ok (), next) := by
    rw [found]
    exact ran
  have read : backend.store.read snapshotKey = .ok (Tables.said stored) :=
    (read_of_snapshot? holds.said).trans (holds.readable_iff.1 readable).copyOut
  exact ⟨next, start?_of_read moment read began, tables, saved⟩

/-- There is no new adapter on a snapshot that cannot be read. -/
theorem start?_of_deep (moment : Moment) {backend : Backend} {stored : Fields Table}
    (holds : backend.Holds stored) (deep : ¬backend.Readable) :
    Backend.start? moment backend.store = .error (.misuse .copyNesting) := by
  have failed : backend.store.read snapshotKey = .error (.misuse .copyNesting) :=
    (read_of_snapshot? holds.said).trans (if_neg fun within => deep (holds.readable_iff.2 within))
  rw [Backend.start?, failed]
  rfl

/-- A restart reads the stored tables and saves what it makes of them, or it fails and leaves all as it
was. -/
theorem restart_cases (moment : Moment) {host : Host Backend} {stored : Fields Table}
    (holds : host.backend.Holds stored) :
    (∃ next, Backend.start? moment host.backend.store = .ok next ∧
      (Event.restart moment).run host = (.ok (.success .null), { backend := next }) ∧
      next.tables = Tables.ofNamed stored ++ missingDefaults moment.stamp (Tables.ofNamed stored) ∧
      next.IsSaved) ∨
      (Event.restart moment).run host = (.error (.misuse .copyNesting), host) := by
  by_cases readable : host.backend.Readable
  · rcases start?_of_holds moment holds readable with ⟨next, started, tables, saved⟩
    refine .inl ⟨next, started, ?_, tables, saved⟩
    rw [Event.run, started]
  · refine .inr ?_
    rw [Event.run, start?_of_deep moment holds readable]

/-- A new adapter on a store without a snapshot has the default tables, and has saved them. -/
theorem start?_of_absent (moment : Moment) {entries : Store.Memory}
    (absent : Fields.get? entries snapshotKey = none) :
    ∃ next, Backend.start? moment (.memory entries) = .ok next ∧
      next.tables = defaultTables moment.stamp ∧ next.IsSaved := by
  let empty : Backend := { store := .memory entries }
  have memory : empty.InMemory := ⟨entries, rfl⟩
  have none : empty.tables = Tables.ofNamed [] := rfl
  rcases seed_ok moment memory none rfl fun missing => absurd missing (missingDefaults_nil _) with
    ⟨next, ran, tables, saved⟩
  have read : (Store.memory entries).read snapshotKey = .ok .null := by
    rw [Store.read, Store.Memory.read, absent]
    rfl
  exact ⟨next, start?_of_read moment read ran, tables, saved⟩

theorem start?_fresh (moment : Moment) :
    Backend.start? moment .empty = .ok (fresh moment).backend ∧
      (fresh moment).backend.tables = defaultTables moment.stamp := by
  rcases start?_of_absent moment (rfl : Fields.get? [] snapshotKey = none) with
    ⟨next, started, tables, _⟩
  have opened : Backend.start? moment .empty = .ok next := started
  rw [fresh, opened]
  exact ⟨rfl, tables⟩

theorem clear_ok (moment : Moment) {host : Host Backend} (memory : host.backend.InMemory) :
    ∃ after, clear moment host = (.ok (), after) ∧ after.backend.IsSaved := by
  rcases memory with ⟨entries, memory⟩
  let emptied : Backend := { host.backend with
    tables := []
    store := .memory (Fields.erase entries snapshotKey) }
  have none : emptied.tables = Tables.ofNamed [] := rfl
  rcases seed_ok moment ⟨_, rfl⟩ none rfl fun missing => absurd missing (missingDefaults_nil _) with
    ⟨after, ran, _, saved⟩
  have gone : Store.remove host.backend.store snapshotKey =
      .ok (Fields.has entries snapshotKey, emptied.store) := by
    rw [memory]
    rfl
  have dropped : Backend.drop snapshotKey { host.backend with tables := [] } =
      (.ok (), emptied) := Action.ofExcept_bind_ok gone _ _
  have whole : (do
      Backend.setTables []
      Backend.drop snapshotKey
      Backend.seed moment) host.backend = (.ok (), after) :=
    (Action.bind_of_ok dropped).trans ran
  refine ⟨{ host with backend := after }, ?_, saved⟩
  rw [clear, Host.onBackend_apply, whole]

/-! ## Operations -/

theorem commits_rpc (moment : Moment) (params : Value) :
    Commits Unkept (rpc moment (.text "update_user_profile") params) := by
  refine .after fixes_restoreSession fun _ => ?_
  -- of the two procedures only this one writes
  have other : (Value.text "update_user_profile").looseEq (.text "get_user_profile") = false := by
    rw [Value.looseEq_text]
    decide
  have this : (Value.text "update_user_profile").looseEq (.text "update_user_profile") = true := by
    rw [Value.looseEq_text]
    decide
  simp only [other, this, if_true]
  exact commits_updateProfile moment params

theorem keeps_rpc (moment : Moment) {name : Value} (params : Value)
    (other : name ≠ .text "update_user_profile") : KeepsContents (rpc moment name params) := by
  refine .bind fixes_restoreSession fun _ => ?_
  cases own : name.looseEq (.text "get_user_profile") with
  | true =>
      refine .bind .get fun host => ?_
      cases host.session with
      | none => exact .pure _
      | some session => exact .ofExcept _
  | false =>
      cases changes : name.looseEq (.text "update_user_profile") with
      | true => exact absurd (Value.looseEq_text_iff.1 changes) other
      | false => exact .bind (.ofExcept _) fun _ => .pure _

theorem commits_body (moment : Moment) {operation : Operation} (mutates : operation.Mutates) :
    Commits (fun host => operation.ChangesProfile ∧ Unkept host) (body moment operation) := by
  cases operation with
  | insert table data => exact commits_insert moment table data
  | insertMany table rows => exact commits_insertMany moment table rows
  | update table filters patch => exact commits_update moment table filters patch
  | delete table filters => exact commits_delete table filters
  | upsert table data => exact commits_upsert moment table data
  | signUp email password => exact commits_signUp moment email password
  | rpc name params =>
      cases mutates
      exact (commits_rpc moment params).mono fun _ unkept => ⟨rfl, unkept⟩
  | _ => exact mutates.elim

theorem keeps_body (moment : Moment) {operation : Operation} (reads : ¬operation.Mutates) :
    KeepsContents (body moment operation) := by
  cases operation with
  | select table columns filters => exact keeps_select table columns filters
  | selectOne table columns filters => exact keeps_selectOne table columns filters
  | query table options => exact keeps_query table options
  | count table filters => exact keeps_count table filters
  | signIn email password => exact keeps_signIn email password
  | signOut => exact keeps_signOut
  | currentUser => exact fixes_currentUser
  | isAuthenticated => exact fixes_isAuthenticated
  | rpc name params => exact keeps_rpc moment params reads
  | _ => exact absurd trivial reads

/-! ## Events -/

/-- An event that has failed at keeping the session, when it had changed the profile and saved the
tables. -/
structure HalfDone (event : Event) (after : Host Backend) : Prop where
  changes : ∃ moment operation, event = .call moment operation ∧ operation.ChangesProfile
  saved : after.backend.IsSaved
  unkept : Unkept after

/-- What one event does to the snapshot. -/
structure Follows (event : Event) (host : Host Backend) : Prop where
  saved : event.Mutates → Succeeded (event.run host).1 → (event.run host).2.backend.IsSaved
  kept : (∀ moment, event ≠ .restart moment) → ¬(event.Mutates ∧ Succeeded (event.run host).1) →
    (event.run host).2.backend.store.snapshot? = host.backend.store.snapshot? ∨
      HalfDone event (event.run host).2

theorem follows_call (moment : Moment) (operation : Operation) {host : Host Backend}
    (memory : host.backend.InMemory) : Follows (.call moment operation) host := by
  rcases ran : body moment operation host with ⟨outcome, after⟩
  cases outcome with
  | ok data =>
      have runs : (Event.call moment operation).run host = (.ok (.success data), after) :=
        perform_of_ok ran
      constructor
      · intro mutates _
        rw [runs]
        exact (commits_body moment mutates).saved memory ran
      · intro _ idle
        rw [runs] at idle ⊢
        have reads : ¬operation.Mutates := fun mutates => idle ⟨mutates, data, rfl⟩
        exact .inl (congrArg Prod.snd ((keeps_body moment reads).after ran))
  | error fault =>
      rcases perform_of_error ran with ⟨text, journal, answered⟩
      have runs : (Event.call moment operation).run host =
          (.ok (.failure text), { after with journal }) := answered
      constructor
      · intro _ succeeded
        rw [runs] at succeeded
        rcases succeeded with ⟨data, claimed⟩
        cases claimed
      · intro _ _
        rw [runs]
        by_cases mutates : operation.Mutates
        · exact ((commits_body moment mutates).kept memory ran).imp_right
            fun ⟨saved, changes, unkept⟩ => ⟨⟨moment, operation, rfl, changes⟩, saved, unkept⟩
        · exact .inl (congrArg Prod.snd ((keeps_body moment mutates).after ran))

theorem follows_importText (document : Value) {host : Host Backend}
    (memory : host.backend.InMemory) : Follows (.importText document) host := by
  have commits : Commits (fun _ => False) (importText document) := commits_importText document
  rcases ran : importText document host with ⟨outcome, after⟩
  cases outcome with
  | ok done =>
      have runs : (Event.importText document).run host = (.ok (.success .null), after) :=
        Action.bind_of_ok ran
      constructor
      · intro _ _
        rw [runs]
        exact commits.saved memory ran
      · intro _ idle
        rw [runs] at idle
        exact absurd ⟨trivial, _, rfl⟩ idle
  | error fault =>
      have runs : (Event.importText document).run host = (.error fault, after) :=
        Action.bind_of_error ran
      constructor
      · intro _ succeeded
        rw [runs] at succeeded
        rcases succeeded with ⟨data, claimed⟩
        cases claimed
      · intro _ _
        rw [runs]
        exact .inl ((commits.kept memory ran).resolve_right And.right)

theorem follows_clear (moment : Moment) {host : Host Backend} (memory : host.backend.InMemory) :
    Follows (.clear moment) host := by
  rcases clear_ok moment memory with ⟨after, ran, saved⟩
  have runs : (Event.clear moment).run host = (.ok (.success .null), after) :=
    Action.bind_of_ok ran
  constructor
  · intro _ _
    rw [runs]
    exact saved
  · intro _ idle
    rw [runs] at idle
    exact absurd ⟨trivial, _, rfl⟩ idle

/-- One event, whatever it is, saves the tables or leaves the snapshot alone. -/
theorem run_follows {host : Host Backend} (memory : host.backend.InMemory) (event : Event) :
    Follows event host := by
  cases event with
  | call moment operation => exact follows_call moment operation memory
  | clear moment => exact follows_clear moment memory
  | importText document => exact follows_importText document memory
  | exportText => exact ⟨fun mutates _ => mutates.elim, fun _ _ => .inl rfl⟩
  | restart moment => exact ⟨fun mutates _ => mutates.elim, fun other _ => absurd rfl (other moment)⟩

/-! ## Runs -/

theorem holds_run {host : Host Backend} {stored : Fields Table} (holds : host.backend.Holds stored)
    (event : Event) : ∃ next, (event.run host).2.backend.Holds next := by
  have memory := Backend.inMemory_of_snapshot? holds.said
  have follows := run_follows memory event
  -- a restart reads the snapshot, a mutation that succeeds writes it, all else leaves it alone
  by_cases restarts : ∃ moment, event = .restart moment
  · rcases restarts with ⟨moment, rfl⟩
    rcases restart_cases moment holds with ⟨next, _, runs, _, saved⟩ | failed
    · rw [runs]
      exact saved.holds
    · rw [failed]
      exact ⟨stored, holds⟩
  · by_cases saves : event.Mutates ∧ Succeeded (event.run host).1
    · exact (follows.saved saves.1 saves.2).holds
    · rcases follows.kept (fun moment same => restarts ⟨moment, same⟩) saves with same | half
      · exact ⟨stored, by rw [same, holds.said], holds.normal, holds.writable⟩
      · exact half.saved.holds

/-- In every reachable state the snapshot is an object of tables. -/
theorem Reachable.holds {host : Host Backend} (reached : Reachable host) :
    ∃ stored, host.backend.Holds stored := by
  -- induction on the run; that the snapshot is an object of tables is what every event keeps
  induction reached with
  | @start moment entries backend absent started =>
      rcases start?_of_absent moment absent with ⟨next, same, _, saved⟩
      rw [started] at same
      cases same
      exact saved.holds
  | step event _ ih =>
      rcases ih with ⟨stored, holds⟩
      exact holds_run holds event

/-- Over every run: after every mutation that succeeds the store has the normal form of the tables;
whatever else is done leaves the snapshot as it was, but for a change of the profile that fails at keeping
the session, after which the store has the normal form of the tables too; and a new adapter on the store
has the stored tables in their order, with the default tables behind them that the snapshot does not have.
There is a new adapter exactly when the snapshot can be read. -/
theorem snapshot_follows_tables {host : Host Backend} (reached : Reachable host) :
    (∀ event : Event,
      (event.Mutates → Succeeded (event.run host).1 → (event.run host).2.backend.IsSaved) ∧
        ((∀ moment, event ≠ .restart moment) →
          ¬(event.Mutates ∧ Succeeded (event.run host).1) →
            (event.run host).2.backend.store.snapshot? = host.backend.store.snapshot? ∨
              (∃ moment operation, event = .call moment operation ∧ operation.ChangesProfile) ∧
                (event.run host).2.backend.IsSaved ∧ Unkept (event.run host).2)) ∧
      ∃ stored : Fields Table,
        host.backend.store.snapshot? = some (.object (Fields.mapValues .list stored)) ∧
          ∀ moment,
            (host.backend.Readable → ∃ next,
              Backend.start? moment host.backend.store = .ok next ∧ next.IsSaved ∧
              next.tables = Tables.ofNamed stored ++
                (defaultTables moment.stamp).filter fun (name, _) =>
                  !Fields.has (Tables.ofNamed stored) name) ∧
            (¬host.backend.Readable →
              Backend.start? moment host.backend.store = .error (.misuse .copyNesting)) := by
  rcases reached.holds with ⟨stored, holds⟩
  have memory := Backend.inMemory_of_snapshot? holds.said
  refine ⟨fun event => ?_, stored, holds.said, fun moment => ⟨fun readable => ?_, fun deep => ?_⟩⟩
  · have follows := run_follows memory event
    refine ⟨fun mutates succeeded => follows.saved mutates succeeded, ?_⟩
    intro other idle
    exact (follows.kept other idle).imp_right fun half => ⟨half.changes, half.saved, half.unkept⟩
  · rcases start?_of_holds moment holds readable with ⟨next, started, tables, saved⟩
    exact ⟨next, started, saved, tables⟩
  · exact start?_of_deep moment holds deep

theorem reachable_fresh (moment : Moment) : Reachable (fresh moment) :=
  .start (rfl : Fields.get? [] snapshotKey = none) (start?_fresh moment).1

/-- A record that goes into a new table is in the snapshot. -/
theorem snapshot_follows_tables_insert :
    Succeeded ((Event.call {} (.insert (.text "notes") (.object [("id", .int 1)]))).run
        (fresh {})).1 ∧
      ((Event.call {} (.insert (.text "notes") (.object [("id", .int 1)]))).run
        (fresh {})).2.backend.IsSaved := by
  have succeeded : Succeeded ((Event.call {} (.insert (.text "notes")
      (.object [("id", .int 1)]))).run (fresh {})).1 := by decide +kernel
  have follows := (snapshot_follows_tables (reachable_fresh {})).1
    (.call {} (.insert (.text "notes") (.object [("id", .int 1)])))
  exact ⟨succeeded, follows.1 trivial succeeded⟩

/-- A table whose name is a number has a text for its name in the snapshot, so a new adapter does not have
a table under the number. -/
theorem snapshot_renames_tables :
    let five : Key := ⟨.int 5, rfl⟩
    let event : Event := .call {} (.insert five.value (.object [("id", .int 1)]))
    Succeeded (event.run (fresh {})).1 ∧
      Fields.has (event.run (fresh {})).2.backend.tables five = true ∧
      Succeeded ((Event.restart {}).run (event.run (fresh {})).2).1 ∧
      Fields.has ((Event.restart {}).run (event.run (fresh {})).2).2.backend.tables five = false := by
  decide +kernel

end DataGateway.Offline
