import DataGateway.Proofs.Offline.Change
import DataGateway.Proofs.Offline.Frame
import DataGateway.Proofs.Value.Key

/-!
# What the mutations do to the tables

For each step that may write to a table: the table that it leaves, and what it takes for the step to
change the tables at all. Whether the step goes on to succeed does not matter here.

* `Touches step host` — the tables are not the same after the step;
* `ensureTable_ok`, `putTable_ok`, `newRecords_ok` — the parts of a mutation;
* `touches_insertRows`, `touches_rewriteRows`, `touches_upsertRows` — when a mutation touches the
  tables.
-/

namespace DataGateway.Offline

variable {α β : Type} {host after : Host Backend} {moment : Moment}

/-- Are the tables not the same after the step? -/
def Touches (step : Work α) (host : Host Backend) : Prop :=
  (step host).2.backend.tables ≠ host.backend.tables

/-- A step that leaves the tables alone. -/
abbrev KeepsTables (step : Work α) : Prop := FixesBackend Backend.tables step

/-! ## Chains -/

theorem not_touches_of_keeps {step : Work α} (keeps : KeepsTables step) : ¬Touches step host :=
  fun touched => touched (keeps host)

theorem KeepsContents.tables {step : Work α} (keeps : KeepsContents step) : KeepsTables step :=
  keeps.comp Prod.fst

/-- The envelope does nothing to the tables. -/
theorem tables_perform (operation : Operation) :
    (perform moment operation host).2.backend.tables =
      (body moment operation host).2.backend.tables := by
  have silent : profile.tracer = .silent := rfl
  have applied := Profile.resolve_apply silent operation.name (body moment operation) host
  -- a fault may end the session, and that is all that is done about it
  have settled (fault : Fault) : KeepsTables (profile.settle operation.name fault) :=
    (Profile.fixes_settle silent fixes_forget operation.name fault).comp Prod.fst
  rw [perform, applied]
  rcases ran : body moment operation host with ⟨result, after⟩
  cases result with
  | ok data => rfl
  | error fault => exact settled fault after

theorem not_touches_of_ran {step : Work α} {result : Except Fault α}
    (ran : step host = (result, after)) (same : after.backend.tables = host.backend.tables) :
    ¬Touches step host := by
  intro touched
  rw [Touches, ran] at touched
  exact touched same

/-- What comes after a step that is the last to write does not matter. -/
theorem tables_bind_keeps {first : Work α} {next : α → Work β} (keeps : ∀ a, KeepsTables (next a)) :
    ((first >>= next) host).2.backend.tables = (first host).2.backend.tables := by
  rcases ran : first host with ⟨result, middle⟩
  cases result with
  | error fault => rw [Action.bind_of_error ran]
  | ok a =>
      rw [Action.bind_of_ok ran]
      exact keeps a middle

theorem touches_bind_keeps {first : Work α} {next : α → Work β}
    (keeps : ∀ a, KeepsTables (next a)) : Touches (first >>= next) host ↔ Touches first host := by
  rw [Touches, Touches, tables_bind_keeps keeps]

/-- Nor does what comes before the first one, when it goes well. -/
theorem touches_bind_of_ok {first : Work α} {next : α → Work β} {a : α}
    (ran : first host = (.ok a, after)) (same : after.backend.tables = host.backend.tables) :
    Touches (first >>= next) host ↔ Touches (next a) after := by
  rw [Touches, Touches, Action.bind_of_ok ran, same]

theorem touches_get_bind {next : Host Backend → Work α} :
    Touches (get >>= next) host ↔ Touches (next host) host := by
  rw [Touches, Touches, Action.bind_get]

theorem touches_ofExcept_bind {result : Except Fault α} {next : α → Work β} :
    Touches (Action.ofExcept result >>= next) host ↔ ∃ a, result = .ok a ∧ Touches (next a) host := by
  cases result with
  | error fault =>
      constructor
      · intro touched
        exact absurd rfl touched
      · rintro ⟨a, same, _⟩
        cases same
  | ok a =>
      constructor
      · intro touched
        exact ⟨a, rfl, touched⟩
      · rintro ⟨b, same, touched⟩
        cases same
        exact touched

/-! ## Parts of mutations -/

section Table

variable {table : Value} {name : Key}

theorem bind_named (named : Key.ofValue table = .ok name) (next : Key → Work α)
    (host : Host Backend) :
    (Action.ofExcept (Key.ofValue table) >>= next) host = next name host :=
  Action.ofExcept_bind_ok named next host

theorem rowsOfTable_ok (named : Key.ofValue table = .ok name) :
    rowsOfTable table host = (.ok ((Fields.get? host.backend.tables name).getD []), host) :=
  bind_named named _ host

theorem putTable_ok (named : Key.ofValue table = .ok name) (rows : Table) (host : Host Backend) :
    ∃ after, putTable table rows host = (.ok (), after) ∧
      after.backend.tables = Fields.set host.backend.tables name rows :=
  ⟨_, bind_named named _ host, rfl⟩

/-- Afterwards the table is there, with the rows that it had. -/
theorem ensureTable_ok (named : Key.ofValue table = .ok name) (host : Host Backend) :
    ∃ after, ensureTable table host =
        (.ok ((Fields.get? host.backend.tables name).getD []), after) ∧
      after.backend.tables = Fields.set host.backend.tables name
        ((Fields.get? host.backend.tables name).getD []) := by
  have ran : ensureTable table host = _ := bind_named named _ host
  rw [Action.bind_get] at ran
  cases found : Fields.get? host.backend.tables name with
  | none =>
      rw [found] at ran
      exact ⟨_, ran, rfl⟩
  | some rows =>
      rw [found] at ran
      refine ⟨_, ran, ?_⟩
      exact (Fields.set_of_get?_eq_some found).symm

end Table

theorem fixes_keep (key : String) (v : Value) : (Backend.keep key v).Fixes Backend.tables := by
  intro backend
  cases written : backend.store.write key v with
  | error fault =>
      have ran : Backend.keep key v backend = (.error fault, backend) :=
        Action.ofExcept_bind_error written _ backend
      rw [ran]
  | ok store =>
      have ran : Backend.keep key v backend = (.ok (), { backend with store }) :=
        Action.ofExcept_bind_ok written _ backend
      rw [ran]

theorem keeps_save : KeepsTables save := by
  refine Host.fixes_onBackend ?_
  intro backend
  cases said : Tables.snapshot backend.tables with
  | error fault =>
      have ran : Backend.save backend = (.error fault, backend) :=
        Action.ofExcept_bind_error said _ backend
      rw [ran]
  | ok snapshot =>
      have ran : Backend.save backend = Backend.keep snapshotKey snapshot backend :=
        Action.ofExcept_bind_ok said _ backend
      rw [ran]
      exact fixes_keep snapshotKey snapshot backend

/-! ## New records -/

theorem nextId_ok (clock : moment.InCalendar) (host : Host Backend) :
    ∃ id after, (Value.int <$> Host.onBackend (Backend.generateId moment) : Work Value) host =
        (.ok id, after) ∧ after.backend.tables = host.backend.tables := by
  rcases exists_generateId clock host.backend with ⟨id, backend, generated, same⟩
  have ran : Host.onBackend (Backend.generateId moment) host = (.ok id, { host with backend }) := by
    rw [Host.onBackend_apply, generated]
  refine ⟨.int id, { host with backend }, ?_, same⟩
  rw [Action.map_eq_bind, Action.bind_of_ok ran]
  rfl

/-- Under a clock within the calendar a record can always be added. -/
theorem newRecord_ok (clock : moment.InCalendar) (row : Record) (host : Host Backend) :
    ∃ record after, newRecord moment row host = (.ok record, after) ∧
      after.backend.tables = host.backend.tables := by
  have identified : ∃ id after, idFor moment row host = (.ok id, after) ∧
      after.backend.tables = host.backend.tables := by
    unfold idFor
    split
    · exact nextId_ok clock host
    · exact ⟨_, host, rfl, rfl⟩
  rcases identified with ⟨id, after, ran, same⟩
  exact ⟨_, after, Action.bind_of_ok ran, same⟩

theorem newRecords_ok (clock : moment.InCalendar) (rows : List Record) (host : Host Backend) :
    ∃ records after, newRecords moment rows host = (.ok records, after) ∧
      records.length = rows.length ∧ after.backend.tables = host.backend.tables := by
  induction rows generalizing moment host with
  | nil => exact ⟨[], host, rfl, rfl, rfl⟩
  | cons row rows ih =>
      rcases newRecord_ok clock row host with ⟨record, middle, first, kept⟩
      rcases ih clock.next middle with ⟨records, after, others, length, same⟩
      refine ⟨record :: records, after, ?_, congrArg (· + 1) length, same.trans kept⟩
      exact (Action.bind_of_ok first).trans (Action.bind_of_ok others)

/-- Do rows go to a table that has to take them, or that is not there yet? -/
def Adds (tables : Tables) (table : Value) (rows : List Record) : Prop :=
  ∃ name, Key.ofValue table = .ok name ∧ (rows ≠ [] ∨ Fields.get? tables name = none)

/-- The rows come after those that the table had. -/
theorem insertRows_tables (clock : moment.InCalendar) {table : Value} {name : Key}
    (named : Key.ofValue table = .ok name) (rows : List Record) (host : Host Backend) :
    ∃ records : Table, records.length = rows.length ∧
      (insertRows moment table rows host).2.backend.tables = Fields.set host.backend.tables name
        ((Fields.get? host.backend.tables name).getD [] ++ records) := by
  rcases ensureTable_ok named host with ⟨opened, first, created⟩
  rcases newRecords_ok clock rows opened with ⟨records, middle, made, length, kept⟩
  rcases putTable_ok named ((Fields.get? middle.backend.tables name).getD [] ++ records) middle with
    ⟨last, put, placed⟩
  -- the rows are read again after the ids are taken, and are the same rows
  have found : Fields.get? middle.backend.tables name =
      some ((Fields.get? host.backend.tables name).getD []) := by
    rw [kept, created, Fields.get?_set_self]
  refine ⟨records, length, ?_⟩
  calc
    (insertRows moment table rows host).2.backend.tables
        = (putTable table ((Fields.get? middle.backend.tables name).getD [] ++ records)
            middle).2.backend.tables := by
          rw [insertRows, Action.bind_of_ok first, Action.bind_of_ok made,
            Action.bind_of_ok (rowsOfTable_ok named)]
          exact tables_bind_keeps fun _ => .bind keeps_save fun _ => .pure _
    _ = Fields.set middle.backend.tables name
          ((Fields.get? middle.backend.tables name).getD [] ++ records) := by rw [put, placed]
    _ = _ := by rw [found, Option.getD_some, kept, created, Fields.set_set]

theorem touches_insertRows (clock : moment.InCalendar) (table : Value) (rows : List Record) :
    Touches (insertRows moment table rows) host ↔ Adds host.backend.tables table rows := by
  cases named : Key.ofValue table with
  | error fault =>
      have failed : insertRows moment table rows host = (.error fault, host) :=
        Action.bind_of_error (Action.ofExcept_bind_error named _ host)
      constructor
      · intro touched
        exact absurd touched (not_touches_of_ran failed rfl)
      · rintro ⟨name, other, _⟩
        rw [named] at other
        cases other
  | ok name =>
      rcases insertRows_tables clock named rows host with ⟨records, length, tables⟩
      -- nothing changes only when the table is there and no row is new
      have empty : records = [] ↔ rows = [] := by
        rw [← List.length_eq_zero_iff, length, List.length_eq_zero_iff]
      have same : Fields.get? host.backend.tables name =
            some ((Fields.get? host.backend.tables name).getD [] ++ records) ↔
          Fields.get? host.backend.tables name ≠ none ∧ records = [] := by
        cases Fields.get? host.backend.tables name <;> simp
      rw [Touches, tables, Ne, Fields.set_eq_self_iff, same, empty, not_and_or, not_not]
      constructor
      · intro changed
        exact ⟨name, named, changed.symm⟩
      · rintro ⟨other, known, adds⟩
        rw [named] at known
        cases known
        exact adds.symm

/-! ## Rows that are there -/

theorem touches_requireTable_bind {table : Value} {next : Table → Work α} :
    Touches (requireTable table >>= next) host ↔
      ∃ name rows, Key.ofValue table = .ok name ∧
        Fields.get? host.backend.tables name = some rows ∧ Touches (next rows) host := by
  cases named : Key.ofValue table with
  | error fault =>
      have failed : (requireTable table >>= next) host = (.error fault, host) :=
        Action.bind_of_error (Action.ofExcept_bind_error named _ host)
      constructor
      · intro touched
        exact absurd touched (not_touches_of_ran failed rfl)
      · rintro ⟨name, rows, other, _⟩
        cases other
  | ok name =>
      have ran : requireTable table host = _ := bind_named named _ host
      rw [Action.bind_get] at ran
      cases found : Fields.get? host.backend.tables name with
      | none =>
          -- the table is named in the failure, or has a name that cannot be printed
          have failed : ∃ fault, requireTable table host = (.error fault, host) := by
            rw [ran, found]
            cases table.printed with
            | error fault => exact ⟨fault, rfl⟩
            | ok text => exact ⟨_, rfl⟩
          rcases failed with ⟨fault, failed⟩
          constructor
          · intro touched
            exact absurd touched (not_touches_of_ran (Action.bind_of_error failed) rfl)
          · rintro ⟨other, rows, same, present, _⟩
            cases same
            rw [found] at present
            cases present
      | some rows =>
          rw [found] at ran
          constructor
          · intro touched
            exact ⟨name, rows, rfl, found, (touches_bind_of_ok ran rfl).1 touched⟩
          · rintro ⟨other, others, same, present, touched⟩
            cases same
            rw [found] at present
            cases present
            exact (touches_bind_of_ok ran rfl).2 touched

section Present

variable {table : Value} {name : Key} {rows : Table}

theorem touches_putTable (named : Key.ofValue table = .ok name)
    (found : Fields.get? host.backend.tables name = some rows) {new : Table} :
    Touches (putTable table new) host ↔ new ≠ rows := by
  rcases putTable_ok named new host with ⟨after, ran, tables⟩
  rw [Touches, ran, tables, Ne, Fields.set_eq_self_iff, found, Option.some_inj]
  exact ne_comm

/-- Rows are rewritten exactly when one of them is changed before anything goes wrong. -/
theorem touches_rewriteRows (clock : moment.InCalendar) (named : Key.ofValue table = .ok name)
    (found : Fields.get? host.backend.tables name = some rows) (test : Value → Except Fault Bool)
    (patch : Value) : Touches (rewriteRows moment table test patch rows) host ↔
      ChangesSome test (change moment · patch) rows := by
  -- a changed row is never the old one, since its time of change is later
  have moves (row new : Value) (changed : change moment row patch = .ok new) : new ≠ row :=
    ne_of_change clock changed
  have same := changeRows_eq_self_iff test moves rows
  have last (result : Except Fault Table) : KeepsTables (Action.ofExcept result) := .ofExcept result
  rw [rewriteRows, touches_bind_keeps fun _ => last _, touches_putTable named found, Ne, same,
    not_not]

end Present

/-! ## Records that are merged -/

/-- Can a record be added to rows, or else be merged into the one with its id? -/
def Fits (moment : Moment) (rows : Table) (record : Record) : Prop :=
  ∃ place, indexOfId? record 0 rows = .ok place ∧
    ∀ index ∈ place, ∃ new, change moment (rows.getD index .null) (.object record) = .ok new

section Merging

variable {table : Value} {name : Key} {rows : Table} {record : Record}

theorem lt_length_of_change {index : Nat} {patch new : Value}
    (changed : change moment (rows.getD index .null) patch = .ok new) : index < rows.length := by
  rcases change_ok changed with ⟨fields, update, text, row, _⟩
  rcases Nat.lt_or_ge index rows.length with inside | outside
  · exact inside
  · rw [List.getD_eq_default _ _ outside] at row
    cases row

/-- A record that fits adds to the weight of the table. -/
theorem upsertRow_ok (clock : moment.InCalendar) (named : Key.ofValue table = .ok name)
    (found : Fields.get? host.backend.tables name = some rows) (fits : Fits moment rows record) :
    ∃ written after heavier, upsertRow moment table record host = (.ok written, after) ∧
      weight rows < weight heavier ∧
      after.backend.tables = Fields.set host.backend.tables name heavier := by
  rcases fits with ⟨place, indexed, changes⟩
  have read : rowsOfTable table host = (.ok rows, host) := by
    rw [rowsOfTable_ok named, found, Option.getD_some]
  cases place with
  | none =>
      -- no row has the id of the record
      rcases newRecord_ok clock record host with ⟨new, middle, made, kept⟩
      rcases putTable_ok named (rows ++ [new]) middle with ⟨after, put, tables⟩
      refine ⟨new, after, rows ++ [new], ?_, weight_lt_append rows new, by rw [tables, kept]⟩
      rw [upsertRow, Action.bind_of_ok read, Action.ofExcept_bind_ok indexed]
      exact (Action.bind_of_ok made).trans (Action.bind_of_ok put)
  | some index =>
      -- a row has it, and gets older by the merge
      rcases changes index rfl with ⟨merged, changed⟩
      rcases putTable_ok named (rows.set index merged) host with ⟨after, put, tables⟩
      have inside := lt_length_of_change changed
      have older := age_lt_of_change clock changed
      refine ⟨merged, after, rows.set index merged, ?_, weight_lt_set inside older, tables⟩
      rw [upsertRow, Action.bind_of_ok read, Action.ofExcept_bind_ok indexed]
      exact (Action.ofExcept_bind_ok changed _ host).trans (Action.bind_of_ok put)

/-- One that does not fit leaves it alone. -/
theorem upsertRow_error (named : Key.ofValue table = .ok name)
    (found : Fields.get? host.backend.tables name = some rows) (fits : ¬Fits moment rows record) :
    ∃ fault, upsertRow moment table record host = (.error fault, host) := by
  have read : rowsOfTable table host = (.ok rows, host) := by
    rw [rowsOfTable_ok named, found, Option.getD_some]
  rw [upsertRow, Action.bind_of_ok read]
  cases indexed : indexOfId? record 0 rows with
  | error fault => exact ⟨fault, rfl⟩
  | ok place =>
      cases place with
      | none => exact absurd ⟨none, indexed, fun _ none => nomatch none⟩ fits
      | some index =>
          cases changed : change moment (rows.getD index .null) (.object record) with
          | error fault =>
              exact ⟨fault, Action.ofExcept_bind_error changed _ host⟩
          | ok new =>
              refine absurd ⟨some index, indexed, ?_⟩ fits
              intro other same
              cases same
              exact ⟨new, changed⟩

/-- The table that records leave, however many of them fit. -/
theorem upsertRows_tables (clock : moment.InCalendar) (named : Key.ofValue table = .ok name)
    (found : Fields.get? host.backend.tables name = some rows) (records : List Record) :
    ∃ written, (upsertRows moment table records host).2.backend.tables =
        Fields.set host.backend.tables name written ∧
      (written = rows ∧ (∀ record ∈ records.head?, ¬Fits moment rows record) ∨
        weight rows < weight written ∧ ∃ record ∈ records.head?, Fits moment rows record) := by
  -- induction on the records; the weight carries it, as no later record takes back an earlier one
  induction records generalizing moment host rows with
  | nil => exact ⟨rows, (Fields.set_of_get?_eq_some found).symm, .inl ⟨rfl, fun _ none => nomatch none⟩⟩
  | cons record records ih =>
      by_cases fits : Fits moment rows record
      · rcases upsertRow_ok clock named found fits with ⟨first, middle, heavier, ran, more, tables⟩
        have present : Fields.get? middle.backend.tables name = some heavier := by
          rw [tables, Fields.get?_set_self]
        rcases ih clock.next present with ⟨written, rest, grown⟩
        refine ⟨written, ?_, .inr ⟨?_, record, rfl, fits⟩⟩
        · rw [upsertRows, Action.bind_of_ok ran, tables_bind_keeps fun _ => .pure _]
          calc
            (upsertRows moment.next table records middle).2.backend.tables
                = Fields.set middle.backend.tables name written := rest
            _ = Fields.set host.backend.tables name written := by rw [tables, Fields.set_set]
        · rcases grown with ⟨same, _⟩ | ⟨again, _⟩
          · rw [same]
            exact more
          · exact Nat.lt_trans more again
      · rcases upsertRow_error named found fits with ⟨fault, ran⟩
        refine ⟨rows, ?_, .inl ⟨rfl, ?_⟩⟩
        · rw [upsertRows, Action.bind_of_error ran]
          exact (Fields.set_of_get?_eq_some found).symm
        · intro other same
          cases same
          exact fits

end Merging

end DataGateway.Offline
