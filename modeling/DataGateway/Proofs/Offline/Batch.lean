import DataGateway.Proofs.Offline.Insertion

/-!
# Batches

A payload of several records does to the tables what its records do one after another: the same tables and
the same last id come of it. That the ids of a batch are taken before its rows are added, and that it saves
once and not with every record, does not show, as long as what comes of it can be saved; then the snapshot
and the answered records are the same too.

* `performAll` — operations one after another;
* `SameEffect` — a batch does what several operations do;
* `insert_each_saved`, `insert_each_left`, `upsert_each` — what comes of operations with one record each;
* `batch_in_turn` — the law for the three operations that write payloads;
* `insertMany_not_in_turn` — the snapshot of a batch that cannot be saved.
-/

namespace DataGateway.Offline

variable {moment : Moment} {table : Value} {name : Key} {host : Host Backend}

/-! ## Operations one after another -/

/-- Performs operations one after another, each at the next moment; that is the same one where the clock
and the random number are held fixed. -/
def performAll :
    Moment → List Operation → Host Backend → List (Except Fault Response) × Host Backend
  | _, [], host => ([], host)
  | moment, operation :: rest, host =>
    let (answer, middle) := perform moment operation host
    let (answers, after) := performAll moment.next rest middle
    (answer :: answers, after)

theorem performAll_cons {operation : Operation} {operations : List Operation}
    {answer : Except Fault Response} {middle : Host Backend}
    (first : perform moment operation host = (answer, middle)) :
    performAll moment (operation :: operations) host =
      (answer :: (performAll moment.next operations middle).1,
        (performAll moment.next operations middle).2) := by
  rw [performAll, first]

/-- Does a batch leave what several operations leave? The stores are the same where the tables have a
document. Either all succeed, and the batch answers with all records in order, or the batch fails, and so
does one of them at least. -/
structure SameEffect (batch : Except Fault Response × Host Backend)
    (singles : List (Except Fault Response) × Host Backend) : Prop where
  tables : batch.2.backend.tables = singles.2.backend.tables
  lastId : batch.2.backend.lastId = singles.2.backend.lastId
  session : batch.2.session = singles.2.session
  store : batch.2.backend.tables.Savable → batch.2.backend.store = singles.2.backend.store
  answers : (∃ records, batch.1 = .ok (.success (.list records)) ∧
      singles.1 = records.map fun record => .ok (.success record)) ∨
    Failed batch.1 ∧ ∃ answer ∈ singles.1, Failed answer

/-- A batch is saved and answered as several operations are. -/
theorem SameEffect.of_saved (records : Table) (last : Host Backend) :
    SameEffect (.ok (.success (.list records)), last)
      (records.map fun record => .ok (.success record), last) where
  tables := rfl
  lastId := rfl
  session := rfl
  store _ := rfl
  answers := .inl ⟨records, rfl, rfl⟩

/-- Operations that are turned down leave nothing but lines in the journal. -/
theorem performAll_of_refused (host : Host Backend) {operations : List Operation}
    (refused : ∀ operation ∈ operations, ∀ (moment : Moment) (host : Host Backend), ∃ fault,
      body moment operation host = (.error fault, host)) :
    (performAll moment operations host).2.backend = host.backend ∧
      (performAll moment operations host).2.session = host.session ∧
      ∀ answer ∈ (performAll moment operations host).1, Failed answer := by
  induction operations generalizing moment host with
  | nil => exact ⟨rfl, rfl, fun _ none => nomatch none⟩
  | cons operation operations ih =>
      rcases List.forall_mem_cons.1 refused with ⟨first, rest⟩
      rcases first moment host with ⟨fault, ran⟩
      rcases perform_of_error ran with ⟨text, journal, answered⟩
      rcases @ih moment.next { host with journal } rest with ⟨backend, session, failed⟩
      rw [performAll_cons answered]
      exact ⟨backend, session, List.forall_mem_cons.2 ⟨⟨text, rfl⟩, failed⟩⟩

/-! ## Insertion -/

/-- The insertion of each of some rows. -/
def insertions (table : Value) (rows : List Record) : List Operation :=
  rows.map fun row => .insert table (.object row)

/-- Where all rows can be saved, so can the first ones of them. -/
theorem savable_first {backend : Backend} {row : Record} {rows : List Record}
    (savable : (backend.withRows moment name (row :: rows)).tables.Savable) :
    (backend.withRows moment name [row]).tables.Savable := by
  -- the one table is the other with fewer rows
  have fewer : Fields.set (backend.withRows moment name (row :: rows)).tables name
      (backend.tables.rowsOf name ++ [.object (admitted moment backend.lastId row).1]) =
        (backend.withRows moment name [row]).tables := Fields.set_set
  rw [← fewer]
  refine savable.set Fields.get?_set_self fun other member => ?_
  rcases List.mem_append.1 member with old | new
  · exact List.mem_append_left _ old
  · refine List.mem_append_right _ ?_
    rw [List.mem_singleton.1 new]
    exact List.mem_cons_self ..

/-- Rows that are saved one after another end in the snapshot of all of them. -/
theorem saved_withRows {backend : Backend} (memory : backend.InMemory) (row : Record) (rows : List Record)
    (savable : (backend.withRows moment name (row :: rows)).tables.Savable) :
    ((backend.withRows moment name [row]).saved.withRows moment.next name rows).saved =
      (backend.withRows moment name (row :: rows)).saved := by
  have still : (backend.withRows moment name [row]).InMemory := memory
  have whole := Backend.saved_over still savable
  rcases Backend.saved_eq still with ⟨entries, wrote⟩
  have same := Backend.withRows_cons backend moment name row rows
  rw [wrote] at whole ⊢
  rw [← same] at whole ⊢
  exact whole

section Named

variable (named : Key.ofValue table = .ok name) (clock : moment.InCalendar)

include named clock

/-- Single rows are saved and answered where all of them can be saved. -/
theorem insert_each_saved (memory : host.backend.InMemory) (row : Record) (rows : List Record)
    (savable : (host.backend.withRows moment name (row :: rows)).tables.Savable) :
    performAll moment (insertions table (row :: rows)) host =
      ((admittedAll moment host.backend.lastId (row :: rows)).1.map
          fun record => .ok (.success (.object record)),
        { host with backend := (host.backend.withRows moment name (row :: rows)).saved }) := by
  -- induction on the rows behind the first one, as without any row nothing is saved
  induction rows generalizing moment row host with
  | nil => exact performAll_cons (perform_of_saved (insert_row_apply named clock.readable row host) memory
      savable)
  | cons second rows ih =>
      have ran := insert_row_apply named clock.readable row host
      have still : (host.backend.withRows moment name [row]).InMemory := memory
      have again : ((host.backend.withRows moment name [row]).saved.withRows moment.next name
          (second :: rows)).tables.Savable := by
        rcases Backend.saved_eq still with ⟨entries, wrote⟩
        rw [← Backend.withRows_cons] at savable
        rw [wrote]
        exact savable
      have others := @ih _ { host with backend := (host.backend.withRows moment name [row]).saved }
        clock.next still.saved second again
      have first : performAll moment (insertions table (row :: second :: rows)) host = _ :=
        performAll_cons (perform_of_saved ran memory (savable_first savable))
      rw [insertions] at others
      rw [first, others, saved_withRows memory row (second :: rows) savable, Backend.saved_lastId still]
      rfl

/-- Whether they can be saved or not, they are added; and one of them fails where they cannot. -/
theorem insert_each_left (memory : host.backend.InMemory) (row : Record) (rows : List Record) :
    (∃ journal entries, (performAll moment (insertions table (row :: rows)) host).2 =
        { host with journal, backend :=
          { host.backend.withRows moment name (row :: rows) with store := .memory entries } }) ∧
      (¬(host.backend.withRows moment name (row :: rows)).tables.Savable →
        ∃ answer ∈ (performAll moment (insertions table (row :: rows)) host).1, Failed answer) := by
  -- one insertion adds its row, and fails where the tables cannot be saved
  have step (moment : Moment) (host : Host Backend) (clock : moment.InCalendar)
      (memory : host.backend.InMemory) (row : Record) : ∃ answer journal entries,
      perform moment (.insert table (.object row)) host = (answer, { host with journal, backend :=
        { host.backend.withRows moment name [row] with store := .memory entries } }) ∧
      (¬(host.backend.withRows moment name [row]).tables.Savable → Failed answer) := by
    have ran := insert_row_apply named clock.readable row host
    have still : (host.backend.withRows moment name [row]).InMemory := memory
    by_cases savable : (host.backend.withRows moment name [row]).tables.Savable
    · rcases Backend.saved_eq still with ⟨entries, wrote⟩
      have saved := perform_of_saved ran still savable
      rw [wrote] at saved
      exact ⟨_, _, entries, saved, absurd savable⟩
    · rcases memory with ⟨entries, memory⟩
      rcases perform_of_unsaved ran savable with ⟨text, journal, failed⟩
      refine ⟨_, journal, entries, ?_, fun _ => ⟨text, rfl⟩⟩
      rw [failed, ← memory]
      rfl
  induction rows generalizing moment row host with
  | nil =>
      rcases step moment host clock memory row with ⟨answer, journal, entries, ran, fails⟩
      have whole : performAll moment (insertions table [row]) host = _ := performAll_cons ran
      rw [whole]
      exact ⟨⟨journal, entries, rfl⟩, fun unsavable => ⟨answer, List.mem_singleton_self _, fails unsavable⟩⟩
  | cons second rows ih =>
      rcases step moment host clock memory row with ⟨answer, journal, entries, ran, -⟩
      have whole : performAll moment (insertions table (row :: second :: rows)) host = _ :=
        performAll_cons ran
      rcases @ih _ { host with journal, backend :=
          { host.backend.withRows moment name [row] with store := .memory entries } }
        clock.next ⟨entries, rfl⟩ second with ⟨⟨last, stored, left⟩, fails⟩
      have same := Backend.withRows_cons host.backend moment name row (second :: rows)
      rw [whole]
      refine ⟨⟨last, stored, ?_⟩, fun unsavable => ?_⟩
      · rw [← same]
        exact left
      · rw [← same] at unsavable
        rcases fails unsavable with ⟨answer, member, failed⟩
        exact ⟨answer, List.mem_cons_of_mem _ member, failed⟩

/-- An operation that adds all rows and saves once does what insertions of one row do. -/
theorem sameEffect_insertions {operation : Operation} {rows : List Record} (some : rows ≠ [])
    (ran : body moment operation host = (save >>= fun _ =>
        pure (.list ((admittedAll moment host.backend.lastId rows).1.map .object)) : Work Value)
      { host with backend := host.backend.withRows moment name rows })
    (memory : host.backend.InMemory) :
    SameEffect (perform moment operation host) (performAll moment (insertions table rows) host) ∧
      (Succeeded (perform moment operation host).1 ↔
        (perform moment operation host).2.backend.tables.Savable) := by
  rcases List.exists_cons_of_ne_nil some with ⟨row, rest, rfl⟩
  have still : (host.backend.withRows moment name (row :: rest)).InMemory := memory
  by_cases savable : (host.backend.withRows moment name (row :: rest)).tables.Savable
  · rw [perform_of_saved ran memory savable, insert_each_saved named clock memory row rest savable]
    have effect := SameEffect.of_saved ((admittedAll moment host.backend.lastId (row :: rest)).1.map .object)
      { host with backend := (host.backend.withRows moment name (row :: rest)).saved }
    rw [List.map_map] at effect
    refine ⟨effect, fun _ => ?_, fun _ => ⟨_, rfl⟩⟩
    rwa [Backend.saved_tables still]
  · rcases perform_of_unsaved ran savable with ⟨text, journal, failed⟩
    rcases insert_each_left named clock memory row rest with ⟨⟨last, entries, left⟩, fails⟩
    rw [failed]
    refine ⟨⟨by rw [left], by rw [left], by rw [left], fun savable' => absurd savable' savable,
      .inr ⟨⟨text, rfl⟩, fails savable⟩⟩, ?_, fun savable' => absurd savable' savable⟩
    rintro ⟨data, success⟩
    cases success

end Named

/-! ## Merging -/

/-- A host on another store. -/
def withStore (host : Host Backend) (store : Store) : Host Backend :=
  { host with backend := { host.backend with store } }

/-- Does a step do the same whatever the store is? -/
def IgnoresStore {α : Type} (step : Work α) : Prop :=
  ∀ host store, step (withStore host store) = ((step host).1, withStore (step host).2 store)

namespace IgnoresStore

variable {α β : Type}

theorem pure (a : α) : IgnoresStore (Pure.pure a : Work α) := fun _ _ => rfl

theorem ofExcept (result : Except Fault α) : IgnoresStore (Action.ofExcept result) := fun _ _ => rfl

theorem bind {first : Work α} {next : α → Work β} (ignores : IgnoresStore first)
    (later : ∀ a, IgnoresStore (next a)) : IgnoresStore (first >>= next) := by
  intro host store
  have moved := ignores host store
  rcases ran : first host with ⟨result, middle⟩
  rw [ran] at moved
  cases result with
  | error fault => rw [Action.bind_of_error moved, Action.bind_of_error ran]
  | ok a =>
      rw [Action.bind_of_ok moved, Action.bind_of_ok ran]
      exact later a middle store

theorem map (f : α → β) {step : Work α} (ignores : IgnoresStore step) : IgnoresStore (f <$> step) := by
  rw [Action.map_eq_bind]
  exact ignores.bind fun _ => .pure _

theorem rowsOfTable (table : Value) : IgnoresStore (rowsOfTable table) :=
  .bind (.ofExcept _) fun _ _ _ => rfl

theorem putTable (table : Value) (rows : Table) : IgnoresStore (putTable table rows) :=
  .bind (.ofExcept _) fun _ _ _ => rfl

theorem generateId (moment : Moment) :
    IgnoresStore (Host.onBackend (Backend.generateId moment)) := by
  intro host store
  rw [Host.onBackend_apply, Host.onBackend_apply]
  by_cases readable : moment.Readable
  · rw [generateId_apply readable, generateId_apply readable]
    rfl
  · rcases generateId_unreadable readable with ⟨fault, failed⟩
    rw [failed, failed]

theorem newRecord (moment : Moment) (row : Record) : IgnoresStore (newRecord moment row) := by
  have identified : IgnoresStore (idFor moment row) := by
    unfold idFor
    dsimp only
    split
    · exact .map _ (.generateId moment)
    · exact .pure _
  exact .bind identified fun _ => .pure _

theorem upsertRow (moment : Moment) (table : Value) (record : Record) :
    IgnoresStore (upsertRow moment table record) := by
  refine .bind (.rowsOfTable table) fun rows => .bind (.ofExcept _) fun index => ?_
  cases index with
  | none => exact .bind (.newRecord moment record) fun _ => .bind (.putTable table _) fun _ => .pure _
  | some index => exact .bind (.ofExcept _) fun _ => .bind (.putTable table _) fun _ => .pure _

theorem upsertRows (moment : Moment) (table : Value) (records : List Record) :
    IgnoresStore (upsertRows moment table records) := by
  induction records generalizing moment with
  | nil => exact .pure _
  | cons record records ih =>
      exact .bind (.upsertRow moment table record) fun _ => .bind (ih moment.next) fun _ => .pure _

end IgnoresStore

/-- A table that is there is written without a new name. -/
theorem names_of_puts {α : Type} {step : Work α} (puts : PutsOnly (· = name) step)
    (there : Fields.has host.backend.tables name = true) :
    (step host).2.backend.tables.names = host.backend.tables.names := by
  have still (tables : Tables) (own : Key) (rows : Table) (this : own = name)
      (same : tables.names = host.backend.tables.names) :
      Fields.names (Fields.set tables own rows) = host.backend.tables.names := by
    have present : Fields.has tables own = true := by
      rw [this, Fields.has_eq_any_names, same, ← Fields.has_eq_any_names]
      exact there
    rcases Fields.has_eq_true_iff.1 present with ⟨old, found⟩
    rw [← same]
    exact Fields.names_set_of_get? found
  exact Writes.keeps (puts host) still rfl

/-- The upsert of each of some records. -/
def upserts (table : Value) (records : List Record) : List Operation :=
  records.map fun record => .upsert table (.object record)

section Merging

variable {record : Record} {records : List Record} {data written : Value} {all : Table}
  {middle last : Host Backend}

/-- Creating a table beforehand is no matter. -/
theorem perform_upsert_withTable (named : Key.ofValue table = .ok name) (data : Value)
    (host : Host Backend) :
    perform moment (.upsert table data) { host with backend := host.backend.withTable name } =
      perform moment (.upsert table data) host := by
  have again : (host.backend.withTable name).withTable name = host.backend.withTable name :=
    Backend.withTable_of_has (Fields.has_eq_true_iff.2 ⟨_, Fields.get?_set_self⟩)
  have same : body moment (.upsert table data) { host with backend := host.backend.withTable name } =
      body moment (.upsert table data) host := by
    refine Action.bind_congr ?_ _
    rw [ensureTable_apply named, ensureTable_apply named, again, Backend.withTable, rowsOf_set_self]
  have envelope (host : Host Backend) : perform moment (.upsert table data) host = _ :=
    Profile.resolve_apply rfl (Operation.upsert table data).name (body moment (.upsert table data)) host
  rw [envelope, envelope, same]

section Present

variable (named : Key.ofValue table = .ok name) (there : Fields.has host.backend.tables name = true)

include named there

theorem upsert_apply (moment : Moment) (payload : DataGateway.rowsOf data = .ok records) :
    upsert moment table data host = (upsertRows moment table records >>= fun written =>
      save >>= fun _ => if data.isObject then return written.headD .null else return .list written :
        Work Value) host := by
  rw [upsert, Action.bind_of_ok (ensureTable_apply named host), Action.ofExcept_bind_ok payload,
    Backend.withTable_of_has there]

theorem upsert_row_of_ok (wrote : upsertRow moment table record host = (.ok written, middle)) :
    body moment (.upsert table (.object record)) host =
      (save >>= fun _ => pure written : Work Value) middle := by
  have one : upsertRows moment table [record] host = (.ok [written], middle) := Action.bind_of_ok wrote
  have ran := upsert_apply named there moment
    (rfl : DataGateway.rowsOf (.object record) = .ok [record])
  exact ran.trans (Action.bind_of_ok one)

theorem upsert_row_of_error {fault : Fault}
    (failed : upsertRow moment table record host = (.error fault, middle)) :
    body moment (.upsert table (.object record)) host = (.error fault, middle) := by
  have none : upsertRows moment table [record] host = (.error fault, middle) :=
    Action.bind_of_error failed
  have ran := upsert_apply named there moment
    (rfl : DataGateway.rowsOf (.object record) = .ok [record])
  exact ran.trans (Action.bind_of_error none)

theorem upsert_list_of_ok (payload : DataGateway.rowsOf data = .ok records)
    (list : data.isObject = false) (wrote : upsertRows moment table records host = (.ok all, last)) :
    body moment (.upsert table data) host =
      (save >>= fun _ => pure (.list all) : Work Value) last := by
  have ran := upsert_apply named there moment payload
  rw [Action.bind_of_ok wrote, list] at ran
  exact ran

end Present

section Table

variable (named : Key.ofValue table = .ok name)

include named

theorem names_upsertRows (there : Fields.has host.backend.tables name = true)
    (wrote : upsertRows moment table records host = (.ok all, last)) :
    last.backend.tables.names = host.backend.tables.names := by
  have own (other : Key) (known : Key.ofValue table = .ok other) : other = name :=
    Except.ok.inj (known.symm.trans named)
  have puts : PutsOnly (· = name) (upsertRows moment table records) :=
    moves_upsertRows covers_writes own records
  have kept := names_of_puts puts there
  rwa [wrote] at kept

theorem there_upsertRow (there : Fields.has host.backend.tables name = true)
    (wrote : upsertRow moment table record host = (.ok written, middle)) :
    Fields.has middle.backend.tables name = true := by
  have one : upsertRows moment table [record] host = (.ok [written], middle) :=
    Action.bind_of_ok wrote
  rw [Fields.has_eq_any_names, names_upsertRows named there one, ← Fields.has_eq_any_names]
  exact there

omit named in
/-- Merging leaves the store alone. -/
theorem store_upsertRow (wrote : upsertRow moment table record host = (.ok written, middle)) :
    middle.backend.store = host.backend.store := by
  have one : upsertRows moment table [record] host = (.ok [written], middle) :=
    Action.bind_of_ok wrote
  exact (fixes_upsertRows moment table [record]).after one

/-- An upsert of one record that succeeds has merged it and saved the tables. -/
theorem perform_upsert_cases (memory : host.backend.InMemory)
    (there : Fields.has host.backend.tables name = true)
    (succeeded : Succeeded (perform moment (.upsert table (.object record)) host).1) :
    ∃ written middle entries, upsertRow moment table record host = (.ok written, middle) ∧
      middle.backend.InMemory ∧ middle.backend.tables.Savable ∧
      { middle with backend := middle.backend.saved } = withStore middle (.memory entries) ∧
      perform moment (.upsert table (.object record)) host =
        (.ok (.success written), withStore middle (.memory entries)) := by
  rcases ran : upsertRow moment table record host with ⟨result, middle⟩
  cases result with
  | error fault =>
      rcases perform_of_error (upsert_row_of_error named there ran) with ⟨text, journal, failed⟩
      rw [failed] at succeeded
      rcases succeeded with ⟨data, success⟩
      cases success
  | ok written =>
      have merged := upsert_row_of_ok named there ran
      have still : middle.backend.InMemory := by
        rw [Backend.InMemory, store_upsertRow ran]
        exact memory
      by_cases savable : middle.backend.tables.Savable
      · rcases Backend.saved_eq still with ⟨entries, stored⟩
        have saved := perform_of_saved merged still savable
        have kept : { middle with backend := middle.backend.saved } =
            withStore middle (.memory entries) := by
          rw [stored]
          rfl
        rw [kept] at saved
        exact ⟨written, middle, entries, rfl, still, savable, kept, saved⟩
      · rcases perform_of_unsaved merged savable with ⟨text, journal, failed⟩
        rw [failed] at succeeded
        rcases succeeded with ⟨data, success⟩
        cases success

/-- Records that are merged and saved one after another are merged all at once just as well. -/
theorem upsert_each (memory : host.backend.InMemory)
    (there : Fields.has host.backend.tables name = true)
    (each : ∀ answer ∈ (performAll moment (upserts table (record :: records)) host).1, Succeeded answer) :
    ∃ all last, upsertRows moment table (record :: records) host = (.ok all, last) ∧
      last.backend.InMemory ∧ last.backend.tables.Savable ∧
      performAll moment (upserts table (record :: records)) host =
        (all.map fun written => .ok (.success written),
          { last with backend := last.backend.saved }) := by
  -- induction on the records behind the first one, as without any record nothing is saved
  induction records generalizing moment record host with
  | nil =>
      rcases perform_upsert_cases named memory there (each _ (List.mem_cons_self ..)) with
        ⟨written, middle, entries, merged, still, savable, kept, ran⟩
      have whole : performAll moment (upserts table [record]) host = _ := performAll_cons ran
      refine ⟨[written], middle, Action.bind_of_ok merged, still, savable, ?_⟩
      rw [whole, kept]
      rfl
  | cons second records ih =>
      rcases perform_upsert_cases named memory there (each _ (List.mem_cons_self ..)) with
        ⟨written, middle, entries, merged, still, savable, kept, ran⟩
      have begun : performAll moment (upserts table (record :: second :: records)) host = _ :=
        performAll_cons ran
      have present : Fields.has middle.backend.tables name = true := there_upsertRow named there merged
      rw [begun] at each ⊢
      rcases @ih _ (withStore middle (.memory entries)) _ ⟨entries, rfl⟩ present
        (List.forall_mem_cons.1 each).2 with
        ⟨all, after, rest, -, storable, later⟩
      -- the others meet the same tables, and a store that they do not look at
      have moved := IgnoresStore.upsertRows moment.next table (second :: records) middle (.memory entries)
      rcases others : upsertRows moment.next table (second :: records) middle with ⟨result, last⟩
      rw [others, rest] at moved
      cases moved
      have held : last.backend.store = middle.backend.store :=
        (fixes_upsertRows moment.next table (second :: records)).after others
      have whole : (withStore last (.memory entries)).backend.saved = last.backend.saved := by
        -- merging leaves the store alone, so what the first record saved is still there to be written over
        have overwritten : { last.backend with store := middle.backend.saved.store }.saved =
            { last.backend with store := middle.backend.store }.saved :=
          Backend.saved_over still storable
        have kind := congrArg (·.backend.store) kept
        simp only [withStore] at kind
        rw [← held, kind] at overwritten
        exact overwritten
      refine ⟨written :: all, last, (Action.bind_of_ok merged).trans (Action.bind_of_ok others), ?_,
        storable, ?_⟩
      · rw [Backend.InMemory, held]
        exact still
      · have singles : (performAll moment.next (upserts table (second :: records))
            (withStore middle (.memory entries))) = _ := later
        simp only [upserts] at singles
        rw [singles, whole]
        rfl

end Table

end Merging

/-! ## Payloads -/

theorem recordsOf_objects (rows : List Record) : recordsOf (rows.map Value.object) = .ok rows := by
  induction rows with
  | nil => rfl
  | cons row rows ih =>
      rw [List.map_cons, recordsOf, ih]
      rfl

theorem recordsOf_other {items : List Value} (other : ∃ item ∈ items, item.isObject = false) :
    ∃ fault, recordsOf items = .error fault := by
  induction items with
  | nil =>
      rcases other with ⟨item, none, _⟩
      cases none
  | cons first items ih =>
      cases first with
      | object fields =>
          rcases other with ⟨item, member, kind⟩
          rcases List.mem_cons.1 member with rfl | member
          · cases kind
          · rcases ih ⟨item, member, kind⟩ with ⟨fault, failed⟩
            exact ⟨fault, by rw [recordsOf, failed]; rfl⟩
      | _ => exact ⟨_, rfl⟩

/-! ## Tables without a name -/

section Unnamed

variable {fault : Fault} (unnamed : Key.ofValue table = .error fault) {rows : List Record} {data : Value}

include unnamed

theorem insert_unnamed (payload : DataGateway.rowsOf data = .ok rows) (host : Host Backend) :
    body moment (.insert table data) host = (.error fault, host) :=
  (Action.ofExcept_bind_ok payload _ host).trans
    (Action.bind_of_error (insertRows_unnamed unnamed rows host))

theorem insertMany_unnamed (payload : batchOf data = .ok rows) (host : Host Backend) :
    body moment (.insertMany table data) host = (.error fault, host) := by
  have none : insertRows moment table rows host = (.error fault, host) :=
    insertRows_unnamed unnamed rows host
  have failed := Action.bind_of_error (f := fun rows => pure (Value.list rows)) none
  rw [← Action.map_eq_bind] at failed
  exact (Action.ofExcept_bind_ok payload _ host).trans failed

theorem upsert_unnamed (data : Value) (host : Host Backend) :
    body moment (.upsert table data) host = (.error fault, host) :=
  Action.bind_of_error (Action.ofExcept_bind_error unnamed _ host)

end Unnamed

/-- Where every operation is turned down, so is the batch. -/
theorem sameEffect_of_refused {operation first : Operation} {operations : List Operation} {fault : Fault}
    (refused : body moment operation host = (.error fault, host))
    (all : ∀ operation ∈ first :: operations, ∀ (moment : Moment) (host : Host Backend), ∃ fault,
      body moment operation host = (.error fault, host)) :
    SameEffect (perform moment operation host) (performAll moment (first :: operations) host) := by
  rcases perform_of_error refused with ⟨text, journal, failed⟩
  rcases performAll_of_refused host all with ⟨backend, session, failures⟩
  rw [failed]
  exact ⟨by rw [backend], by rw [backend], session.symm, fun _ => by rw [backend],
    .inr ⟨⟨text, rfl⟩, _, List.mem_cons_self .., failures _ (List.mem_cons_self ..)⟩⟩

/-! ## The law -/

section Law

variable {rows : List Record}

/-- Does a batch of insertions have the effect of single ones? And does it succeed just when the table can
be named and what comes of it can be saved? -/
def InsertsInTurn (moment : Moment) (table : Value) (rows : List Record) (host : Host Backend)
    (operation : Operation) : Prop :=
  SameEffect (perform moment operation host) (performAll moment (insertions table rows) host) ∧
    (Succeeded (perform moment operation host).1 ↔ (∃ name, Key.ofValue table = .ok name) ∧
      (perform moment operation host).2.backend.tables.Savable)

theorem insertsInTurn (clock : moment.InCalendar) (memory : host.backend.InMemory)
    (table : Value) (some : rows ≠ []) :
    let data : Value := .list (rows.map .object)
    InsertsInTurn moment table rows host (.insertMany table data) ∧
      InsertsInTurn moment table rows host (.insert table data) := by
  intro data
  have payload : DataGateway.rowsOf data = .ok rows := recordsOf_objects rows
  have batch : batchOf data = .ok rows := payload
  cases named : Key.ofValue table with
  | ok name =>
      have numberable := clock.numberable rows
      have whole {operation : Operation}
          (effect : SameEffect (perform moment operation host)
              (performAll moment (insertions table rows) host) ∧
            (Succeeded (perform moment operation host).1 ↔
              (perform moment operation host).2.backend.tables.Savable)) :
          InsertsInTurn moment table rows host operation := by
        refine ⟨effect.1, effect.2.trans ⟨fun savable => ⟨⟨name, named⟩, savable⟩, And.right⟩⟩
      exact ⟨whole (sameEffect_insertions named clock some
          (insertMany_apply named numberable batch host) memory),
        whole (sameEffect_insertions named clock some (insert_apply named numberable payload host) memory)⟩
  | error fault =>
      have all : ∀ operation ∈ insertions table rows, ∀ (moment : Moment) (host : Host Backend),
          ∃ fault, body moment operation host = (.error fault, host) := by
        intro operation member moment host
        rcases List.mem_map.1 member with ⟨row, -, rfl⟩
        exact ⟨fault, insert_unnamed named (rfl : DataGateway.rowsOf (.object row) = .ok [row]) host⟩
      have whole {operation : Operation} (refused : body moment operation host = (.error fault, host)) :
          InsertsInTurn moment table rows host operation := by
        rcases List.exists_cons_of_ne_nil some with ⟨row, rest, rfl⟩
        refine ⟨sameEffect_of_refused refused all, fun succeeded => ?_, fun ⟨⟨name, known⟩, _⟩ => ?_⟩
        · rcases perform_of_error refused with ⟨text, journal, failed⟩
          rw [failed] at succeeded
          rcases succeeded with ⟨data, success⟩
          cases success
        · rw [named] at known
          cases known
      exact ⟨whole (insertMany_unnamed named batch host), whole (insert_unnamed named payload host)⟩

theorem upsert_list_in_turn (moment : Moment) (host : Host Backend) {name : Key}
    (named : Key.ofValue table = .ok name)
    (memory : host.backend.InMemory) (there : Fields.has host.backend.tables name = true)
    (record : Record) (records : List Record) :
    let batch := perform moment (.upsert table (.list ((record :: records).map .object))) host
    let singles := performAll moment (upserts table (record :: records)) host
    (∀ answer ∈ singles.1, Succeeded answer) → Succeeded batch.1 ∧ SameEffect batch singles := by
  intro batch singles each
  have payload : DataGateway.rowsOf (.list ((record :: records).map .object)) = .ok (record :: records) :=
    recordsOf_objects _
  rcases upsert_each named memory there each with ⟨all, last, wrote, still, savable, ended⟩
  have done : batch = (.ok (.success (.list all)), { last with backend := last.backend.saved }) :=
    perform_of_saved (upsert_list_of_ok named there payload rfl wrote) still savable
  simp only [singles, ended, done]
  exact ⟨⟨_, rfl⟩, .of_saved all _⟩

theorem upsert_in_turn (moment : Moment) (memory : host.backend.InMemory) (table : Value) (some : rows ≠ [])
    (each : ∀ answer ∈ (performAll moment (upserts table rows) host).1, Succeeded answer) :
    let batch := perform moment (.upsert table (.list (rows.map .object))) host
    Succeeded batch.1 ∧ SameEffect batch (performAll moment (upserts table rows) host) := by
  rcases List.exists_cons_of_ne_nil some with ⟨record, records, rfl⟩
  cases named : Key.ofValue table with
  | ok name =>
      -- the first upsert, like the batch, would create the table
      have law := upsert_list_in_turn moment { host with backend := host.backend.withTable name } named
        memory (Fields.has_eq_true_iff.2 ⟨_, Fields.get?_set_self⟩) record records
      simp only [upserts, List.map_cons, performAll, perform_upsert_withTable named] at law each ⊢
      exact law each
  | error fault =>
      rcases perform_of_error (upsert_unnamed named (.object record) host) with ⟨text, journal, failed⟩
      have first : performAll moment (upserts table (record :: records)) host = _ :=
        performAll_cons failed
      rw [first] at each
      rcases (List.forall_mem_cons.1 each).1 with ⟨data, success⟩
      cases success

end Law

/-! ## A batch that cannot be saved -/

/-- Two notes, the second without an id. -/
def twoNotes : List Record := [[("id", .int 1)], [("title", .text "Second")]]

/-- Has a document a table of notes? -/
def saysNotes : Option Value → Bool
  | some (.object fields) => Fields.has fields "notes"
  | _ => false

section LongIds

variable {n : Int}

theorem inCalendar_random : Moment.InCalendar { random := n } where
  now := inCalendar_default.now
  later := nofun

/-- Random numbers may be so large that ids have no numerals. -/
theorem isPrintable_nextId (long : 10 ^ Numeral.digitLimit ≤ n + 1) (lastId : Int) :
    (Value.int (Moment.nextId { random := n } lastId)).isPrintable = false := by
  have millis : (Moment.millis {}).toOption.getD 0 = 1704067200000 := by decide +kernel
  have same : (Moment.millis { random := n }) = Moment.millis {} := rfl
  have large : (10 : Int) ^ Numeral.digitLimit ≤ Moment.nextId { random := n } lastId := by
    rw [Moment.nextId, same, millis]
    dsimp only
    omega
  have power : ((10 ^ Numeral.digitLimit : Nat) : Int) = 10 ^ Numeral.digitLimit :=
    Int.natCast_pow 10 Numeral.digitLimit
  rw [Value.isPrintable, ← Bool.not_eq_true, Numeral.isWritable_iff]
  omega

/-- The first of two notes is saved, and the second one is not. -/
theorem snapshot_twoNotes (long : 10 ^ Numeral.digitLimit ≤ n + 1) :
    let notes : Value := .text "notes"
    let batch := perform { random := n } (.insertMany notes (.list (twoNotes.map .object))) (fresh {})
    let singles := performAll { random := n } (insertions notes twoNotes) (fresh {})
    saysNotes batch.2.backend.store.snapshot? = false ∧
      saysNotes singles.2.backend.store.snapshot? = true := by
  intro notes batch singles
  have named : Key.ofValue notes = .ok (.ofText "notes") := ofValue_text "notes"
  have memory : (fresh {}).backend.InMemory := by
    rcases (reachable_fresh {}).holds with ⟨stored, holds⟩
    exact Backend.inMemory_of_snapshot? holds.said
  have unsavable (backend : Backend) : ¬(backend.withRows { random := n } (.ofText "notes")
      [[("title", .text "Second")]]).tables.Savable :=
    Tables.not_savable_of_unprintable Fields.get?_set_self
      (List.mem_append_right _ (List.mem_singleton_self _)) (get?_stamped_id ..)
      (isPrintable_nextId long _)
  refine ⟨?_, ?_⟩
  · have together : ¬((fresh {}).backend.withRows { random := n } (.ofText "notes")
        twoNotes).tables.Savable := by
      rw [twoNotes, ← Backend.withRows_cons]
      exact unsavable _
    have payload : batchOf (.list (twoNotes.map .object)) = .ok twoNotes := recordsOf_objects twoNotes
    have ran : body { random := n } (.insertMany notes (.list (twoNotes.map .object))) (fresh {}) = _ :=
      insertMany_apply named (inCalendar_random.numberable twoNotes) payload (fresh {})
    rcases perform_of_unsaved ran together with ⟨text, journal, failed⟩
    have same : batch.2.backend.store = (fresh {}).backend.store := congrArg (·.2.backend.store) failed
    rw [same]
    decide +kernel
  · let first : Backend := (fresh {}).backend.withRows {} (.ofText "notes") [[("id", .int 1)]]
    have savable : first.tables.Savable := by decide +kernel
    -- the first note has an id, so the random number does not matter
    have made (moment : Moment) (lastId : Int) : admitted moment lastId [("id", .int 1)] =
        (stamped moment (.int 1) [("id", .int 1)], lastId) := rfl
    have stamp : Moment.stamp { random := n } = Moment.stamp {} := rfl
    have readable : Moment.Readable { random := n } := inCalendar_random.readable
    have ran := insert_row_apply named readable [("id", .int 1)] (fresh {})
    have placed : (fresh {}).backend.withRows { random := n } (.ofText "notes") [[("id", .int 1)]] = first := by
      simp only [first, Backend.withRows, admittedAll, made, stamped, stamp]
    rw [placed] at ran
    have saved := perform_of_saved ran memory savable
    rcases perform_of_unsaved (insert_row_apply named readable [("title", .text "Second")]
      { fresh {} with backend := first.saved }) (unsavable _) with
      ⟨text, journal, failed⟩
    have whole : singles = _ := performAll_cons saved
    have same : singles.2.backend.store = first.saved.store := by
      rw [whole]
      exact congrArg (·.2.backend.store) failed
    rw [same]
    decide +kernel

end LongIds

end DataGateway.Offline
