import DataGateway.Proofs.Offline.Upsert

/-!
# Adding rows

All that adding rows does, said as functions of the backend. Under a clock that can be read each row
becomes a record in its turn: it keeps its id or takes the next one, and the records come behind the rows
that the table had. Then the snapshot is written.

* `Moment.nextId`, `admitted`, `admittedAll` — ids, one after another;
* `Backend.withRows` — a backend with rows added, before anything is saved;
* `insert_apply`, `insert_row_apply`, `insertMany_apply` — the operations.
-/

namespace DataGateway.Offline

variable {moment : Moment} {table : Value} {name : Key} {rows : List Record} {host : Host Backend}

/-! ## Ids -/

/-- Can the clock be read in milliseconds? -/
def Moment.Readable (moment : Moment) : Prop := ∃ millis, moment.millis = .ok millis

theorem Moment.InCalendar.readable (clock : moment.InCalendar) : moment.Readable :=
  Moment.exists_millis clock

/-- The id that follows the last one at a moment. -/
def Moment.nextId (moment : Moment) (lastId : Int) : Int :=
  max (moment.millis.toOption.getD 0 * 1000 + moment.random) (lastId + 1)

/-- Whatever the clock and the random number are, ids go up. -/
theorem Moment.lt_nextId (moment : Moment) (lastId : Int) : lastId < moment.nextId lastId := by
  rw [Moment.nextId]
  omega

theorem generateId_apply (readable : moment.Readable) (backend : Backend) :
    Backend.generateId moment backend = (.ok (moment.nextId backend.lastId),
      { backend with lastId := moment.nextId backend.lastId }) := by
  rcases readable with ⟨millis, read⟩
  have next : moment.nextId backend.lastId =
      max (millis * 1000 + moment.random) (backend.lastId + 1) := by
    rw [Moment.nextId, read]
    rfl
  rw [next]
  exact Action.ofExcept_bind_ok read _ backend

theorem generateId_unreadable (unreadable : ¬moment.Readable) :
    ∃ fault, ∀ backend, Backend.generateId moment backend = (.error fault, backend) := by
  cases read : moment.millis with
  | ok millis => exact absurd ⟨millis, read⟩ unreadable
  | error fault => exact ⟨fault, fun backend => Action.ofExcept_bind_error read _ backend⟩

/-- Can all rows without an id get one? -/
def Numberable : Moment → List Record → Prop
  | _, [] => True
  | moment, row :: rows =>
    ((idOf (.object row)).isNull = true → moment.Readable) ∧ Numberable moment.next rows

theorem Moment.InCalendar.numberable (clock : moment.InCalendar) (rows : List Record) :
    Numberable moment rows := by
  induction rows generalizing moment with
  | nil => trivial
  | cons row rows ih => exact ⟨fun _ => clock.readable, ih clock.next⟩

theorem get?_stamped_id (moment : Moment) (id : Value) (row : Record) :
    Fields.get? (stamped moment id row) "id" = some id := by
  rw [stamped, Fields.get?_set_of_ne (by decide), Fields.get?_set_of_ne (by decide),
    Fields.get?_set_self]

theorem idOf_stamped (moment : Moment) (id : Value) (row : Record) :
    idOf (.object (stamped moment id row)) = id := by
  rw [idOf, get?_stamped_id, Option.getD_some]

/-- A row as the record that it becomes, and the last id after that. -/
def admitted (moment : Moment) (lastId : Int) (row : Record) : Record × Int :=
  if (idOf (.object row)).isNull then
    (stamped moment (.int (moment.nextId lastId)) row, moment.nextId lastId)
  else (stamped moment (idOf (.object row)) row, lastId)

/-- Rows as the records that they become one after another, and the last id after them. -/
def admittedAll : Moment → Int → List Record → List Record × Int
  | _, lastId, [] => ([], lastId)
  | moment, lastId, row :: rows =>
    let (record, next) := admitted moment lastId row
    let (records, last) := admittedAll moment.next next rows
    (record :: records, last)

theorem newRecord_apply {row : Record}
    (readable : (idOf (.object row)).isNull = true → moment.Readable) (host : Host Backend) :
    newRecord moment row host = (.ok (.object (admitted moment host.backend.lastId row).1),
      { host with backend :=
        { host.backend with lastId := (admitted moment host.backend.lastId row).2 } }) := by
  have given : (Fields.get? row "id").getD .null = idOf (.object row) := rfl
  cases absent : (idOf (.object row)).isNull with
  | true =>
      have identified : idFor moment row host =
          (.ok (.int (moment.nextId host.backend.lastId)), { host with backend :=
            { host.backend with lastId := moment.nextId host.backend.lastId } }) := by
        have generated := Host.onBackend_apply (Backend.generateId moment) host
        rw [generateId_apply (readable absent)] at generated
        rw [idFor, given, absent, if_pos rfl, Action.map_eq_bind, Action.bind_of_ok generated]
        rfl
      rw [newRecord, Action.bind_of_ok identified, admitted, absent]
      rfl
  | false =>
      have identified : idFor moment row host = (.ok (idOf (.object row)), host) := by
        rw [idFor, given, absent]
        rfl
      rw [newRecord, Action.bind_of_ok identified, admitted, absent]
      rfl

theorem newRecords_apply (numberable : Numberable moment rows) (host : Host Backend) :
    newRecords moment rows host =
      (.ok ((admittedAll moment host.backend.lastId rows).1.map Value.object),
        { host with backend :=
          { host.backend with lastId := (admittedAll moment host.backend.lastId rows).2 } }) := by
  -- induction on the rows; each one moves the counter for those behind it
  induction rows generalizing moment host with
  | nil => rfl
  | cons row rows ih =>
      rcases numberable with ⟨first, others⟩
      rw [newRecords, Action.bind_of_ok (newRecord_apply first host), Action.bind_of_ok (ih others _)]
      rfl

/-! ## Tables -/

/-- A backend with a table, which is empty if it was not there. -/
def Backend.withTable (backend : Backend) (name : Key) : Backend :=
  { backend with tables := Fields.set backend.tables name (backend.tables.rowsOf name) }

/-- A backend with rows added to a table. -/
def Backend.withRows (backend : Backend) (moment : Moment) (name : Key) (rows : List Record) : Backend :=
  { backend with
    tables := Fields.set backend.tables name (backend.tables.rowsOf name ++
      (admittedAll moment backend.lastId rows).1.map Value.object)
    lastId := (admittedAll moment backend.lastId rows).2 }

theorem Backend.withTable_of_has {backend : Backend} (there : Fields.has backend.tables name = true) :
    backend.withTable name = backend := by
  rcases Fields.has_eq_true_iff.1 there with ⟨rows, found⟩
  rw [withTable, Tables.rowsOf, found, Option.getD_some, Fields.set_of_get?_eq_some found]

theorem rowsOf_set_self (tables : Tables) (name : Key) (rows : Table) :
    Tables.rowsOf (Fields.set tables name rows) name = rows := by
  rw [Tables.rowsOf, Fields.get?_set_self, Option.getD_some]

/-- Rows can be added in two goes. -/
theorem Backend.withRows_cons (backend : Backend) (moment : Moment) (name : Key) (row : Record)
    (rows : List Record) : (backend.withRows moment name [row]).withRows moment.next name rows =
      backend.withRows moment name (row :: rows) := by
  simp [withRows, admittedAll, rowsOf_set_self, Fields.set_set]

section Named

variable (named : Key.ofValue table = .ok name)

include named

theorem putTable_apply (rows : Table) (host : Host Backend) : putTable table rows host =
    (.ok (), { host with backend :=
      { host.backend with tables := Fields.set host.backend.tables name rows } }) :=
  bind_named named _ host

theorem ensureTable_apply (host : Host Backend) : ensureTable table host =
    (.ok (host.backend.tables.rowsOf name),
      { host with backend := host.backend.withTable name }) := by
  have ran : ensureTable table host = _ := bind_named named _ host
  rw [Action.bind_get] at ran
  cases found : Fields.get? host.backend.tables name with
  | none =>
      rw [found] at ran
      rw [ran, Backend.withTable, Tables.rowsOf, found]
      rfl
  | some rows =>
      rw [found] at ran
      have there : Fields.has host.backend.tables name = true :=
        Fields.has_eq_true_iff.2 ⟨rows, found⟩
      rw [ran, Backend.withTable_of_has there, Tables.rowsOf, found]
      rfl

/-- Rows are added without fail, and then saved. -/
theorem insertRows_apply (numberable : Numberable moment rows) (host : Host Backend) :
    insertRows moment table rows host =
      (save >>= fun _ =>
        pure ((admittedAll moment host.backend.lastId rows).1.map Value.object) : Work Table)
      { host with backend := host.backend.withRows moment name rows } := by
  -- the rows are read again after the ids are taken, and are the same rows
  have read (lastId : Int) : rowsOfTable table { host with backend :=
        { host.backend.withTable name with lastId } } =
      (.ok (host.backend.tables.rowsOf name), { host with backend :=
        { host.backend.withTable name with lastId } }) := by
    rw [rowsOfTable_ok named, Backend.withTable, Fields.get?_set_self, Option.getD_some]
  rw [insertRows, Action.bind_of_ok (ensureTable_apply named host),
    Action.bind_of_ok (newRecords_apply numberable _), Action.bind_of_ok (read _),
    Action.bind_of_ok (putTable_apply named _ _), Backend.withRows]
  simp only [Backend.withTable, Fields.set_set]

/-- A payload is added and saved, and answered by its records. -/
theorem insert_apply (numberable : Numberable moment rows) {data : Value}
    (payload : DataGateway.rowsOf data = .ok rows) (host : Host Backend) :
    insert moment table data host =
      (save >>= fun _ =>
        pure (answerFor data (admittedAll moment host.backend.lastId rows).1) : Work Value)
      { host with backend := host.backend.withRows moment name rows } := by
  rw [insert, Action.ofExcept_bind_ok payload,
    Action.bind_congr (insertRows_apply named numberable host), bind_assoc, answerFor]
  cases data.isObject <;> rfl

theorem insert_row_apply (readable : moment.Readable) (row : Record) (host : Host Backend) :
    body moment (.insert table (.object row)) host =
      (save >>= fun _ => pure (.object (admitted moment host.backend.lastId row).1) : Work Value)
      { host with backend := host.backend.withRows moment name [row] } := by
  have numberable : Numberable moment [row] := ⟨fun _ => readable, trivial⟩
  exact insert_apply named numberable (rfl : DataGateway.rowsOf (.object row) = .ok [row]) host

theorem insertMany_apply (numberable : Numberable moment rows) {data : Value}
    (payload : batchOf data = .ok rows) (host : Host Backend) :
    insertMany moment table data host =
      (save >>= fun _ => pure (.list ((admittedAll moment host.backend.lastId rows).1.map .object)) :
        Work Value)
      { host with backend := host.backend.withRows moment name rows } := by
  rw [insertMany, Action.ofExcept_bind_ok payload, Action.map_eq_bind,
    Action.bind_congr (insertRows_apply named numberable host), bind_assoc]
  rfl

end Named

theorem insertRows_unnamed {fault : Fault} (unnamed : Key.ofValue table = .error fault)
    (rows : List Record) (host : Host Backend) :
    insertRows moment table rows host = (.error fault, host) :=
  Action.bind_of_error (Action.ofExcept_bind_error unnamed _ host)

end DataGateway.Offline
