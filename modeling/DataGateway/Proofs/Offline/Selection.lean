import DataGateway.Proofs.Filter.Spec
import DataGateway.Proofs.Offline.Naming
import DataGateway.Proofs.Offline.Saving

/-!
# What filters select

Five operations read filters, each on a path of its own, and all of them pick the same records: those
that the reference predicate accepts, in the order of the table.

* `Spec.admits` — the reference predicate as a test of rows;
* `filterRows_ok`, `partitionRows_ok` — what rows that can be tested are filtered and parted into;
* `select_ok`, `selectOne_ok`, `query_ok`, `count_ok`, `delete_ok` — the five operations;
* `perform_selects` — the same for their responses, and what deleting leaves to be read;
* `perform_delete_unsavable` — what is left is not always saved, and deleting fails then.
-/

namespace DataGateway

/-- Does a specification accept a row? -/
def Spec.admits (spec : Spec) (row : Value) : Bool := (spec.accepts row).toOption.getD false

/-- A record on which all conditions can be tested is accepted or not. -/
theorem Spec.accepts_of_isObject {spec : Spec} (concrete : spec.IsConcrete) {row : Value}
    (record : row.isObject = true) (tells : ∀ fields, row = .object fields → spec.Tells fields) :
    spec.accepts row = .ok (spec.admits row) := by
  cases row with
  | object fields =>
      have answer := accepts_object concrete (tells fields rfl)
      rw [admits, answer]
      rfl
  | _ => cases record

/-- Where no text is looked for, all records can be tested. -/
theorem Spec.accepts_of_plain {spec : Spec} (concrete : spec.IsConcrete)
    (plain : ∀ entry ∈ spec, entry.2.pattern? = none) {row : Value} (record : row.isObject = true) :
    spec.accepts row = .ok (spec.admits row) :=
  accepts_of_isObject concrete record fun fields _ entry member =>
    Condition.tells_of_plain (plain entry member) (cellOf fields entry.1)

namespace Offline

variable {host : Host Backend} {moment : Moment} {spec : Spec} {rows : Table}

/-! ## Rows that can be tested -/

section Tested

variable (tested : ∀ row ∈ rows, spec.accepts row = .ok (spec.admits row))

include tested

theorem filterRows_ok : filterRows spec rows = .ok (rows.filter spec.admits) := by
  induction rows with
  | nil => rfl
  | cons row rows ih =>
      have first := tested row (List.mem_cons_self ..)
      have others := ih fun r member => tested r (List.mem_cons_of_mem _ member)
      simp only [filterRows, first, others, bind, Except.bind, List.filter_cons]
      rfl

/-- The rows that are kept and those that are removed, both in their old order. -/
theorem partitionRows_ok : partitionRows spec rows =
    .ok (rows.filter fun row => !spec.admits row, rows.filter spec.admits) := by
  induction rows with
  | nil => rfl
  | cons row rows ih =>
      have first := tested row (List.mem_cons_self ..)
      have others := ih fun r member => tested r (List.mem_cons_of_mem _ member)
      simp only [partitionRows, first, others, bind, Except.bind, List.filter_cons]
      cases spec.admits row <;> rfl

end Tested

theorem ofValue_star : Selection.ofValue (.text "*") = .ok .all := by
  have star : Selection.ofText "*" = .all := by decide +kernel
  exact congrArg Except.ok star

section Columns

variable {columns : Value} (all : Selection.ofValue columns = .ok .all)

include all

theorem project_all {row : Value} (record : row.isObject = true) : project columns row = .ok row := by
  cases row with
  | object fields =>
      simp only [project, all, bind, Except.bind]
      rfl
  | _ => cases record

theorem projectAll_all (records : ∀ row ∈ rows, row.isObject = true) :
    projectAll columns rows = .ok rows := by
  induction rows with
  | nil => rfl
  | cons row rows ih =>
      have first := project_all all (records row (List.mem_cons_self ..))
      have others := ih fun r member => records r (List.mem_cons_of_mem _ member)
      simp only [projectAll, first, others, bind, Except.bind]
      rfl

end Columns

/-! ## Tables that have to be there -/

section Required

variable {table : Value} {name : Key} (named : Key.ofValue table = .ok name)

include named

theorem requireTable_ok (found : Fields.get? host.backend.tables name = some rows) :
    requireTable table host = (.ok rows, host) := by
  have ran : requireTable table host = _ := bind_named named _ host
  rw [Action.bind_get, found] at ran
  exact ran

/-- The message repeats the name, so it is another one where the name has no text. -/
theorem requireTable_absent (absent : Fields.get? host.backend.tables name = none) :
    requireTable table host = ((table.printed >>= fun text => .error (.absent (.table text))), host) := by
  have ran : requireTable table host = _ := bind_named named _ host
  rw [Action.bind_get, absent] at ran
  rw [ran]
  cases table.printed <;> rfl

end Required

/-! ## Operations -/

/-- The rows of a table; a table that does not exist has none. -/
def Tables.rowsOf (tables : Tables) (name : Key) : Table := (Fields.get? tables name).getD []

theorem selected_apply (table : Value) (spec : Spec) (host : Host Backend) :
    selected table spec host =
      (Key.ofValue table >>= fun name => filterRows spec (host.backend.tables.rowsOf name), host) := by
  cases named : Key.ofValue table with
  | error fault =>
      have stopped : rowsOfTable table host = (.error fault, host) :=
        Action.ofExcept_bind_error named _ host
      exact Action.bind_of_error stopped
  | ok name =>
      have read : rowsOfTable table host = (.ok (host.backend.tables.rowsOf name), host) :=
        rowsOfTable_ok named
      exact Action.bind_of_ok read

section Selected

variable {table : Value} {name : Key} {filters : Filters} (named : Key.ofValue table = .ok name)
  (parsed : filters.parse = .ok spec)
  (tested : ∀ row ∈ host.backend.tables.rowsOf name, spec.accepts row = .ok (spec.admits row))

include named tested

theorem selected_ok : selected table spec host =
    (.ok ((host.backend.tables.rowsOf name).filter spec.admits), host) := by
  have read : rowsOfTable table host = (.ok (host.backend.tables.rowsOf name), host) :=
    rowsOfTable_ok named
  have filtered := filterRows_ok tested
  rw [selected, Action.bind_of_ok read, filtered]
  rfl

include parsed

theorem count_ok : count table filters host =
    (.ok (.int ((host.backend.tables.rowsOf name).filter spec.admits).length), host) := by
  rw [count, Action.ofExcept_bind_ok parsed, Action.bind_of_ok (selected_ok named tested)]
  rfl

/-- The rows that are not accepted stay, in their old order, and nothing else is written. -/
theorem delete_ok (found : Fields.has host.backend.tables name = true) :
    let others := (host.backend.tables.rowsOf name).filter fun row => !spec.admits row
    delete table filters host = (save >>= fun _ =>
        pure (.list ((host.backend.tables.rowsOf name).filter spec.admits)) : Work Value)
      { host with backend :=
        { host.backend with tables := Fields.set host.backend.tables name others } } := by
  intro others
  rcases Fields.has_eq_true_iff.1 found with ⟨rows, present⟩
  have same : host.backend.tables.rowsOf name = rows := by
    rw [Tables.rowsOf, present]
    rfl
  simp only [others, same] at tested ⊢
  have parted := partitionRows_ok tested
  calc
    delete table filters host
        = (do
            let parts ← Action.ofExcept (partitionRows spec rows)
            putTable table parts.1
            save
            return .list parts.2 : Work Value) host := by
          rw [delete, Action.ofExcept_bind_ok parsed,
            Action.bind_of_ok (requireTable_ok named present)]
    _ = (do
            putTable table (rows.filter fun row => !spec.admits row)
            save
            return .list (rows.filter spec.admits) : Work Value) host := Action.ofExcept_bind_ok parted _ host
    _ = _ := Action.bind_of_ok (bind_named named _ host)

variable (records : ∀ row ∈ host.backend.tables.rowsOf name, row.isObject = true)

include records

theorem select_ok : select table (.text "*") filters host =
    (.ok (.list ((host.backend.tables.rowsOf name).filter spec.admits)), host) := by
  have accepted : ∀ row ∈ (host.backend.tables.rowsOf name).filter spec.admits,
      row.isObject = true := fun row member => records row (List.mem_filter.1 member).1
  have projected := projectAll_all ofValue_star accepted
  rw [select, Action.ofExcept_bind_ok parsed,
    Action.bind_of_ok (selected_ok named tested), projected]
  rfl

theorem selectOne_ok : selectOne table (.text "*") filters host =
    (.ok (((host.backend.tables.rowsOf name).filter spec.admits).headD .null), host) := by
  rw [selectOne, Action.ofExcept_bind_ok parsed,
    Action.bind_of_ok (selected_ok named tested)]
  cases first : (host.backend.tables.rowsOf name).filter spec.admits with
  | nil => rfl
  | cons row rest =>
      have member : row ∈ (host.backend.tables.rowsOf name).filter spec.admits := by
        rw [first]
        exact List.mem_cons_self ..
      have projected := project_all ofValue_star (records row (List.mem_filter.1 member).1)
      dsimp only
      rw [projected]
      rfl

/-- A query that asks for nothing but filters has no order and no bounds. -/
theorem query_ok : query table { filters } host =
    (.ok (.list ((host.backend.tables.rowsOf name).filter spec.admits)), host) := by
  have checked : Query.Options.check { filters } = .ok ⟨spec, none, none⟩ := by
    simp only [Query.Options.check, parsed]
    rfl
  have accepted : ∀ row ∈ (host.backend.tables.rowsOf name).filter spec.admits,
      row.isObject = true := fun row member => records row (List.mem_filter.1 member).1
  have projected := projectAll_all ofValue_star accepted
  rw [query, Action.ofExcept_bind_ok checked,
    Action.bind_of_ok (selected_ok named tested)]
  exact Action.ofExcept_bind_ok projected _ host

end Selected

/-! ## Responses -/

/-- What there is no table for is told, and nothing changes but the journal. -/
theorem perform_delete_absent {table : Value} {name : Key} {filters : Filters}
    (named : Key.ofValue table = .ok name) (parsed : filters.parse = .ok spec)
    (absent : Fields.get? host.backend.tables name = none) :
    ∃ text journal, perform moment (.delete table filters) host =
        (.ok (.failure text), { host with journal }) ∧
      (table.isPrintable = true → text = s!"Table {table.display} does not exist") := by
  have failed : body moment (.delete table filters) host =
      ((table.printed >>= fun text => .error (.absent (.table text))), host) := by
    have first : delete table filters host = _ := Action.ofExcept_bind_ok parsed _ host
    refine first.trans ?_
    have stopped := requireTable_absent named absent
    cases said : table.printed with
    | error fault =>
        rw [said] at stopped
        exact Action.bind_of_error stopped
    | ok text =>
        rw [said] at stopped
        exact Action.bind_of_error stopped
  cases printable : table.isPrintable with
  | false =>
      rw [Value.printed_of_not printable] at failed
      rcases perform_of_error failed with ⟨text, journal, ran⟩
      exact ⟨text, journal, ran, nofun⟩
  | true =>
      rw [Value.printed_of_isPrintable printable] at failed
      let fault : Fault := .absent (.table table.display)
      have envelope : perform moment (.delete table filters) host = _ :=
        Profile.resolve_apply rfl "delete" (body moment (.delete table filters)) host
      have raised : body moment (.delete table filters) host = (.error fault, host) := failed
      rw [raised] at envelope
      have classified : profile.classify fault = .ok fault := rfl
      have message : fault.message ≠ "" := by
        intro empty
        have characters := congrArg String.toList empty
        simp [fault, Fault.message, Absence.message, toString] at characters
      rcases Profile.settle_said rfl "delete" classified rfl message host with ⟨journal, settled⟩
      exact ⟨_, journal, envelope.trans settled, fun _ => rfl⟩

section Deletion

variable {table : Value} {name : Key} {filters : Filters} (named : Key.ofValue table = .ok name)
  (parsed : filters.parse = .ok spec)
  (tested : ∀ row ∈ host.backend.tables.rowsOf name, spec.accepts row = .ok (spec.admits row))
  (found : Fields.has host.backend.tables name = true)

include named parsed tested found

/-- Deleting from a table that is there leaves the rows that are not accepted, whether or not they can be
saved; it answers with the others where they can, and fails where they cannot. -/
theorem perform_delete_present (memory : host.backend.InMemory) (moment : Moment) :
    let left : Tables := Fields.set host.backend.tables name
      ((host.backend.tables.rowsOf name).filter fun row => !spec.admits row)
    ∃ outcome after, perform moment (.delete table filters) host = (outcome, after) ∧
      (left.Savable → outcome =
        .ok (.success (.list ((host.backend.tables.rowsOf name).filter spec.admits)))) ∧
      (¬left.Savable → Failed outcome) ∧
      after.backend.tables = left ∧ after.session = host.session := by
  intro left
  have ran : body moment (.delete table filters) host = _ := delete_ok named parsed tested found
  let next : Host Backend := { host with backend := { host.backend with tables := left } }
  have still : next.backend.InMemory := memory
  by_cases savable : left.Savable
  · refine ⟨_, _, perform_of_saved ran still savable, fun _ => rfl, absurd savable, ?_, rfl⟩
    exact Backend.saved_tables still
  · rcases perform_of_unsaved ran savable with ⟨text, journal, failed⟩
    exact ⟨_, _, failed, fun savable' => absurd savable' savable, fun _ => ⟨text, rfl⟩, rfl, rfl⟩

end Deletion

/-- Over every run, for a table of records and filters that are read and can be tested on them: selecting,
counting, taking the first and querying answer with the accepted records in the order of the table, and
change nothing; deleting leaves the others in their old order and all other tables as they were, so that
then nothing is selected, and it answers with the same records where the tables that are left have a
document; a table that is not there is read as empty and cannot be deleted from. -/
theorem perform_selects {host : Host Backend} (reached : Reachable host) (moment : Moment)
    {table : Value} {name : Key} {filters : Filters} {spec : Spec}
    (named : Key.ofValue table = .ok name) (parsed : filters.parse = .ok spec)
    (records : ∀ row ∈ host.backend.tables.rowsOf name, row.isObject = true)
    (tested : ∀ row ∈ host.backend.tables.rowsOf name, spec.accepts row = .ok (spec.admits row)) :
    let accepted := (host.backend.tables.rowsOf name).filter spec.admits
    let others := (host.backend.tables.rowsOf name).filter fun row => !spec.admits row
    let left : Tables := Fields.set host.backend.tables name others
    (perform moment (.select table (.text "*") filters) host =
        (.ok (.success (.list accepted)), host) ∧
      perform moment (.count table filters) host =
        (.ok (.success (.int accepted.length)), host) ∧
      perform moment (.selectOne table (.text "*") filters) host =
        (.ok (.success (accepted.headD .null)), host) ∧
      perform moment (.query table { filters }) host =
        (.ok (.success (.list accepted)), host)) ∧
    (Fields.has host.backend.tables name = true → ∃ outcome after,
      perform moment (.delete table filters) host = (outcome, after) ∧
      (left.Savable → outcome = .ok (.success (.list accepted))) ∧ (¬left.Savable → Failed outcome) ∧
      after.backend.tables.rowsOf name = others ∧
      perform moment (.select table (.text "*") filters) after =
        (.ok (.success (.list [])), after) ∧
      after.backend.tables.names = host.backend.tables.names ∧
      (∀ other, (other == name) = false →
        Fields.get? after.backend.tables other = Fields.get? host.backend.tables other) ∧
      after.session = host.session) ∧
    (Fields.has host.backend.tables name = false → accepted = [] ∧ ∃ text journal,
      perform moment (.delete table filters) host = (.ok (.failure text), { host with journal }) ∧
      (table.isPrintable = true → text = s!"Table {table.display} does not exist")) := by
  intro accepted others left
  refine ⟨⟨?_, ?_, ?_, ?_⟩, ?_, ?_⟩
  · exact perform_of_ok (select_ok named parsed tested records)
  · exact perform_of_ok (count_ok named parsed tested)
  · exact perform_of_ok (selectOne_ok named parsed tested records)
  · exact perform_of_ok (query_ok named parsed tested records)
  · intro found
    rcases reached.holds with ⟨stored, holds⟩
    have memory := Backend.inMemory_of_snapshot? holds.said
    rcases perform_delete_present named parsed tested found memory moment with
      ⟨outcome, after, deleted, succeeds, fails, tables, session⟩
    have remain : after.backend.tables.rowsOf name = others := by
      rw [Tables.rowsOf, tables, Fields.get?_set_self]
      rfl
    -- what is left was not accepted, so nothing of it is selected
    have old : ∀ row ∈ after.backend.tables.rowsOf name, row ∈ host.backend.tables.rowsOf name := by
      intro row member
      rw [remain] at member
      exact (List.mem_filter.1 member).1
    have none : (after.backend.tables.rowsOf name).filter spec.admits = [] := by
      rw [remain, List.filter_filter]
      simp
    have again := select_ok named parsed (fun row member => tested row (old row member))
      fun row member => records row (old row member)
    rw [none] at again
    rcases Fields.has_eq_true_iff.1 found with ⟨rows, present⟩
    refine ⟨outcome, after, deleted, succeeds, fails, remain, perform_of_ok again, ?_, ?_, session⟩
    · rw [tables]
      exact Fields.names_set_of_get? present
    · intro other apart
      rw [tables]
      exact Fields.get?_set_of_ne apart
  · intro unknown
    have absent : Fields.get? host.backend.tables name = none := by
      simpa [Fields.has, Fields.get?] using unknown
    refine ⟨?_, perform_delete_absent named parsed absent⟩
    simp [accepted, Tables.rowsOf, absent]

/-- Of the two users that a new database has, one is selected and deleted. -/
theorem perform_selects_user :
    let host := fresh {}
    let table : Value := .text "users"
    let filters : Filters := .other (.object [("name", .object [("ilike", .text "ADMIN")])])
    let spec : Spec := [("name", .ilike (.text "ADMIN"))]
    let rows := host.backend.tables.rowsOf (.ofText "users")
    Reachable host ∧ filters.parse = .ok spec ∧
    (∀ row ∈ rows, row.isObject = true) ∧ (∀ row ∈ rows, spec.accepts row = .ok (spec.admits row)) ∧
    Fields.has host.backend.tables (.ofText "users") = true ∧
    rows.length = 2 ∧ (rows.filter spec.admits).length = 1 ∧
    perform {} (.count table filters) host = (.ok (.success (.int 1)), host) ∧
    ∃ after, perform {} (.delete table filters) host =
      (.ok (.success (.list (rows.filter spec.admits))), after) ∧
      perform {} (.select table (.text "*") filters) after = (.ok (.success (.list [])), after) := by
  intro host table filters spec rows
  have concrete : spec.IsConcrete := List.forall_mem_singleton.2 trivial
  have records : ∀ row ∈ rows, row.isObject = true := by decide +kernel
  have printable : ∀ row ∈ rows, row.isPrintable = true := by decide +kernel
  have tested : ∀ row ∈ rows, spec.accepts row = .ok (spec.admits row) := by
    intro row member
    refine Spec.accepts_of_isObject concrete (records row member) fun fields same => ?_
    refine Spec.Tells.of_printable ?_ (same ▸ printable row member)
    decide
  have found : Fields.has host.backend.tables (.ofText "users") = true := by decide +kernel
  have one : (rows.filter spec.admits).length = 1 := by decide +kernel
  have named : Key.ofValue table = .ok (.ofText "users") := ofValue_text "users"
  have parsed : filters.parse = .ok spec := rfl
  rcases perform_selects (reachable_fresh {}) {} named parsed records tested with
    ⟨⟨_, counted, _, _⟩, deletes, _⟩
  rcases deletes found with ⟨outcome, after, deleted, succeeds, fails, _, selected, _⟩
  rw [succeeds (by decide +kernel)] at deleted
  rw [one] at counted
  exact ⟨reachable_fresh {}, parsed, records, tested, found, by decide +kernel, one, counted, after,
    deleted, selected⟩

/-- A note in a table whose name is a tuple, which no document has a name for. -/
def oddlyNamed : Host Backend :=
  (Event.run (.call {} (.insert (.tuple [.text "t"]) (.object [("id", .int 1)]))) (fresh {})).2

/-- The note cannot be deleted from there. -/
theorem perform_delete_unsavable : Reachable oddlyNamed ∧
    (∃ name, Key.ofValue (.tuple [.text "t"]) = .ok name ∧
      Fields.has oddlyNamed.backend.tables name = true ∧
      ∀ row ∈ oddlyNamed.backend.tables.rowsOf name, row.isObject = true) ∧
    Failed (perform {} (.delete (.tuple [.text "t"]) (.columns [])) oddlyNamed).1 := by
  refine ⟨.step _ (reachable_fresh {}), ⟨⟨.tuple [.text "t"], rfl⟩, rfl, ?_, ?_⟩, ?_⟩
  all_goals decide +kernel

end Offline

end DataGateway
