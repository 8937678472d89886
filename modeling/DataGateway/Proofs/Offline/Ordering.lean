import DataGateway.Proofs.Offline.Page
import DataGateway.Proofs.Query.Ordering

/-!
# Ordered rows of the offline adapter

A query in order of a column puts the rows that have a value there first, arranged by it, and behind
them the others as they stand in the table, in both directions.

* `cellOf` — the value of a column in a row, null when it is missing;
* `exists_orderRows` — rows are arranged when the values of the column are of one kind;
* `orderRows_perm` — no row is lost when they are of other kinds;
* `perform_query_ordered` — the same for the response, over all tables of records.
-/

namespace DataGateway.Offline

open Query (Arranged)
open Value (OneKind)

/-- The value of a column in a row, null when it is missing. -/
def cellOf (column : String) : Value → Value
  | .object fields => Spec.cellOf fields column
  | _ => .null

/-- The rows that have a value in a column. -/
def having (column : String) (rows : Table) : Table := rows.filter fun row => !(cellOf column row).isNull

/-- The rows that have none. -/
def lacking (column : String) (rows : Table) : Table := rows.filter fun row => (cellOf column row).isNull

variable {host : Host Backend} {rows : Table} {column : String}

/-! ## Rows with their keys -/

theorem cell_ok {row : Value} (record : row.isObject = true) :
    cell row (.text column) = .ok (cellOf column row) := by
  cases row with
  | object fields => rfl
  | _ => cases record

theorem keyed_ok (records : ∀ row ∈ rows, row.isObject = true) :
    keyed (.text column) rows = .ok (rows.map fun row => ⟨cellOf column row, row⟩) := by
  induction rows with
  | nil => rfl
  | cons row rows ih =>
      have first : cell row (.text column) = .ok (cellOf column row) :=
        cell_ok (records row (List.mem_cons_self ..))
      have others := ih fun r member => records r (List.mem_cons_of_mem _ member)
      simp only [keyed, first, others, bind, Except.bind]
      rfl

/-- Values of one kind are all it takes to put rows in order. -/
theorem exists_orderRows (records : ∀ row ∈ rows, row.isObject = true) (ascending : Value)
    (kind : OneKind ((having column rows).map (cellOf column))) :
    ∃ present, orderRows { column := .text column, ascending } rows =
        .ok (present ++ lacking column rows) ∧
      Arranged (cellOf column) ascending.truthy (having column rows) present := by
  let tag (row : Value) : Query.Keyed := ⟨cellOf column row, row⟩
  have read : keyed (.text column) rows = .ok (rows.map tag) := keyed_ok records
  have present : (rows.map tag).filter (fun k => !k.key.isNull) = (having column rows).map tag :=
    List.filter_map
  have missing : (rows.map tag).filter (fun k => k.key.isNull) = (lacking column rows).map tag :=
    List.filter_map
  have tagged : OneKind (((having column rows).map tag).map Query.Keyed.key) := by
    rw [List.map_map]
    exact kind
  rcases Query.Keyed.exists_sort tagged ascending.truthy with ⟨sorted, sorts, arranged⟩
  have known : ∀ k ∈ (having column rows).map tag, cellOf column k.row = k.key := by
    intro k member
    rcases List.mem_map.1 member with ⟨row, _, rfl⟩
    rfl
  have untag (rows : Table) : (rows.map tag).map (·.row) = rows := by
    simp [tag, Function.comp_def]
  refine ⟨sorted.map (·.row), ?_, ?_⟩
  · simp only [orderRows, read, bind, Except.bind, present, missing, sorts, List.map_append, untag]
    rfl
  · have mapped := arranged.map (f := (·.row)) known
    rw [untag] at mapped
    exact mapped

/-! ## Keys of any kind -/

theorem map_row_of_keyed {name : Value} {keys : List Query.Keyed} (read : keyed name rows = .ok keys) :
    keys.map (·.row) = rows := by
  induction rows generalizing keys with
  | nil =>
      cases read
      rfl
  | cons row rows ih =>
      rcases bind_eq_ok_iff.1 read with ⟨key, _, read⟩
      rcases bind_eq_ok_iff.1 read with ⟨others, went, read⟩
      cases read
      rw [List.map_cons, ih went]

/-- Whatever the values are: if rows can be put in order, none of them is lost. -/
theorem orderRows_perm {ordering : Query.Ordering} {sorted : Table}
    (ran : orderRows ordering rows = .ok sorted) : sorted.Perm rows := by
  rcases bind_eq_ok_iff.1 ran with ⟨keys, read, ran⟩
  dsimp only at ran
  split at ran
  · rename_i present sorts
    cases ran
    have whole : (present ++ keys.filter (·.key.isNull)).Perm keys := by
      refine ((Query.Keyed.sort_perm sorts).append_right _).trans ?_
      exact List.perm_append_comm.trans (List.filter_append_perm _ keys)
    rw [← map_row_of_keyed read]
    exact whole.map _
  · cases ran

/-! ## Responses -/

/-- For a table of records, filters that can be read and tested, and a column whose values in the
accepted records are all texts or all whole numbers, null apart: a query in order of the column
answers with the accepted records, in either direction first those with a value, arranged by it with
equal ones as in the table, then those without one as in the table. -/
theorem perform_query_ordered (host : Host Backend) (moment : Moment) {table : Value} {name : Key}
    {filters : Filters} {spec : Spec} (column : String) (ascending : Value)
    (named : Key.ofValue table = .ok name) (parsed : filters.parse = .ok spec)
    (records : ∀ row ∈ host.backend.tables.rowsOf name, row.isObject = true)
    (tested : ∀ row ∈ host.backend.tables.rowsOf name, spec.accepts row = .ok (spec.admits row))
    (kind : OneKind ((having column ((host.backend.tables.rowsOf name).filter spec.admits)).map
      (cellOf column))) :
    let accepted := (host.backend.tables.rowsOf name).filter spec.admits
    ∃ present,
      perform moment (.query table
          { filters, ordering := some { column := .text column, ascending } }) host =
        (.ok (.success (.list (present ++ lacking column accepted))), host) ∧
      (present ++ lacking column accepted).Perm accepted ∧
      Arranged (cellOf column) ascending.truthy (having column accepted) present := by
  intro accepted
  have kept : ∀ row ∈ accepted, row.isObject = true := fun row member =>
    records row (List.mem_filter.1 member).1
  rcases exists_orderRows kept ascending kind with ⟨present, orders, arranged⟩
  let options : Query.Options := { filters, ordering := some { column := .text column, ascending } }
  have checked : options.check = .ok ⟨spec, none, none⟩ := by
    simp only [options, Query.Options.check, parsed]
    rfl
  have whole : (present ++ lacking column accepted).Perm accepted := by
    refine (arranged.perm.append_right _).trans ?_
    refine List.perm_append_comm.trans ?_
    exact List.filter_append_perm _ _
  have finds : Finds host table spec options.ordering (present ++ lacking column accepted) :=
    ⟨name, accepted, named, filterRows_ok tested, orders⟩
  have answered := perform_query_all moment checked ofValue_star finds fun row member =>
    kept row (whole.mem_iff.1 member)
  exact ⟨present, answered, whole, arranged⟩

/-- A table of people, two of them without an age and two of one age. -/
def people : Table :=
  [.object [("id", .int 1), ("age", .int 30)], .object [("id", .int 2), ("age", .null)],
    .object [("id", .int 3), ("age", .int 41)], .object [("id", .int 4)],
    .object [("id", .int 5), ("age", .int 30)], .object [("id", .int 6), ("bot", .bool true)]]

def peopled : Host Backend where
  backend := { store := .empty, tables := [(.ofText "people", people)] }

theorem rowsOf_peopled : peopled.backend.tables.rowsOf (.ofText "people") = people := by
  simp [Tables.rowsOf, peopled, Fields.get?]

/-- All people but the last one, from the oldest on. -/
theorem perform_query_people :
    let host := peopled
    let filters : Filters := .columns [("bot", .built .isNull)]
    let spec : Spec := [("bot", .isNull)]
    let accepted := (host.backend.tables.rowsOf (.ofText "people")).filter spec.admits
    filters.parse = .ok spec ∧ accepted.length = 5 ∧ (lacking "age" accepted).length = 2 ∧
    (∀ row ∈ host.backend.tables.rowsOf (.ofText "people"), row.isObject = true) ∧
    OneKind ((having "age" accepted).map (cellOf "age")) ∧
    ∃ present,
      perform {} (.query (.text "people")
          { filters, ordering := some { column := .text "age", ascending := .bool false } }) host =
        (.ok (.success (.list (present ++ lacking "age" accepted))), host) ∧
      present.Perm (having "age" accepted) := by
  intro host filters spec accepted
  have named : Key.ofValue (.text "people") = .ok (.ofText "people") := ofValue_text "people"
  have parsed : filters.parse = .ok spec := rfl
  have records : ∀ row ∈ host.backend.tables.rowsOf (.ofText "people"), row.isObject = true := by
    decide +kernel
  have concrete : spec.IsConcrete := List.forall_mem_singleton.2 trivial
  have plain : ∀ entry ∈ spec, entry.2.pattern? = none := List.forall_mem_singleton.2 rfl
  have numbers : ∀ key ∈ (having "age" accepted).map (cellOf "age"), key.whole?.isSome = true := by
    decide +kernel
  have kind : OneKind ((having "age" accepted).map (cellOf "age")) :=
    .inr fun key member => Option.isSome_iff_exists.1 (numbers key member)
  rcases perform_query_ordered host {} "age" (.bool false) named parsed records
    (fun row member => Spec.accepts_of_plain concrete plain (records row member)) kind with
    ⟨present, answered, _, arranged⟩
  exact ⟨parsed, by decide +kernel, by decide +kernel, records, kind, present, answered, arranged.perm⟩

end DataGateway.Offline
