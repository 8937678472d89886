import DataGateway.Proofs.Offline.Selection
import DataGateway.Proofs.Query.Page

/-!
# Pages of the offline adapter

* `Finds` — the rows that a query is about, in the order that it asks for;
* `query_apply` — what a query works out of the tables;
* `perform_query`, `finds_of_perform_query` — it answers with its page of these rows, and with nothing
  else if it succeeds;
* `perform_count` — counting answers with the number of all of them.
-/

namespace DataGateway.Offline

/-- Rows in the order that is asked for, if there is one. -/
def ordered (ordering : Option Query.Ordering) (rows : Table) : Except Fault Table :=
  match ordering with
  | none => .ok rows
  | some ordering => orderRows ordering rows

/-- Are these the rows of a table that a specification accepts, in the order that is asked for? -/
def Finds (host : Host Backend) (table : Value) (spec : Spec) (ordering : Option Query.Ordering)
    (rows : Table) : Prop :=
  ∃ name accepted, Key.ofValue table = .ok name ∧
    filterRows spec (host.backend.tables.rowsOf name) = .ok accepted ∧
    ordered ordering accepted = .ok rows

theorem page_eq (checked : Query.Checked) (rows : Table) :
    page checked.limit checked.offset rows = checked.page.rows rows := by
  unfold page Query.Checked.page Query.Page.rows
  cases checked.limit <;> rfl

/-- What is answered of the rows that are found. -/
def answerOf (options : Query.Options) (checked : Query.Checked) (accepted : Table) :
    Except Fault Value := do
  let rows ← ordered options.ordering accepted
  let taken ← projectAll options.select (checked.page.rows rows)
  return if options.single.truthy then taken.headD .null else .list taken

theorem ofExcept_answerOf (options : Query.Options) (checked : Query.Checked) (accepted : Table) :
    (do
      let rows ← match options.ordering with
        | none => pure accepted
        | some ordering => Action.ofExcept (orderRows ordering accepted)
      let rows := page checked.limit checked.offset rows
      let rows ← Action.ofExcept (projectAll options.select rows)
      if options.single.truthy then return rows.headD .null else return .list rows : Work Value) =
    Action.ofExcept (answerOf options checked accepted) := by
  have ended (rows : Table) : (do
      let taken ← Action.ofExcept (projectAll options.select (page checked.limit checked.offset rows))
      if options.single.truthy then return taken.headD .null else return .list taken : Work Value) =
      Action.ofExcept (do
        let taken ← projectAll options.select (checked.page.rows rows)
        return if options.single.truthy then taken.headD .null else .list taken) := by
    rw [page_eq]
    cases projectAll options.select (checked.page.rows rows) with
    | error fault => rfl
    | ok taken => cases options.single.truthy <;> rfl
  unfold answerOf ordered
  cases options.ordering with
  | none => exact ended accepted
  | some ordering =>
      dsimp only
      cases orderRows ordering accepted with
      | error fault => rfl
      | ok rows => exact ended rows

/-- A query works its answer out of the tables, and changes nothing. -/
theorem query_apply (table : Value) (options : Query.Options) (host : Host Backend) :
    query table options host = (do
      let checked ← options.check
      let name ← Key.ofValue table
      let accepted ← filterRows checked.spec (host.backend.tables.rowsOf name)
      answerOf options checked accepted, host) := by
  rw [query]
  cases options.check with
  | error fault => exact Action.ofExcept_bind_error rfl _ host
  | ok checked =>
      have worked : (selected table checked.spec >>= _) host = _ :=
        congrArg (fun next => (selected table checked.spec >>= next) host)
          (funext (ofExcept_answerOf options checked))
      refine (Action.ofExcept_bind_ok rfl _ host).trans (worked.trans ?_)
      rw [Action.bind_ofExcept, selected_apply]
      cases Key.ofValue table <;> rfl

variable {host : Host Backend} {table : Value} {options : Query.Options} {checked : Query.Checked}
  {rows : Table}

/-- A query answers with what its selection takes from the page of the rows that it finds, and changes
nothing. -/
theorem perform_query (moment : Moment) (valid : options.check = .ok checked)
    (finds : Finds host table checked.spec options.ordering rows) {taken : List Value}
    (projected : projectAll options.select (checked.page.rows rows) = .ok taken) :
    perform moment (.query table options) host =
      (.ok (.success (if options.single.truthy then taken.headD .null else .list taken)), host) := by
  rcases finds with ⟨name, accepted, named, filtered, sorted⟩
  refine perform_of_ok ?_
  have ran : body moment (.query table options) host = _ := query_apply table options host
  rw [ran, valid]
  simp only [bind, Except.bind, named, filtered, answerOf, sorted, projected]
  rfl

/-- A query that succeeds has found rows, and its answer is what its selection takes from its page. -/
theorem finds_of_perform_query {moment : Moment} {answer : Value} {after : Host Backend}
    (answered : perform moment (.query table options) host = (.ok (.success answer), after)) :
    after = host ∧ ∃ checked rows taken, options.check = .ok checked ∧
      Finds host table checked.spec options.ordering rows ∧
      projectAll options.select (checked.page.rows rows) = .ok taken ∧
      answer = if options.single.truthy then taken.headD .null else .list taken := by
  have ran : query table options host = (.ok answer, after) := Profile.resolve_success rfl answered
  rw [query_apply] at ran
  refine ⟨(congrArg Prod.snd ran).symm, ?_⟩
  rcases bind_eq_ok_iff.1 (congrArg Prod.fst ran) with ⟨checked, valid, ran⟩
  rcases bind_eq_ok_iff.1 ran with ⟨name, named, ran⟩
  rcases bind_eq_ok_iff.1 ran with ⟨accepted, filtered, ran⟩
  rcases bind_eq_ok_iff.1 ran with ⟨rows, sorted, ran⟩
  rcases bind_eq_ok_iff.1 ran with ⟨taken, projected, ran⟩
  cases ran
  exact ⟨checked, rows, taken, valid, ⟨name, accepted, named, filtered, sorted⟩, projected, rfl⟩

theorem perform_count (moment : Moment) {filters : Filters} {spec : Spec} {name : Key} {accepted : Table}
    (parsed : filters.parse = .ok spec) (named : Key.ofValue table = .ok name)
    (filtered : filterRows spec (host.backend.tables.rowsOf name) = .ok accepted) :
    perform moment (.count table filters) host =
      (.ok (.success (.int accepted.length)), host) := by
  have picked : selected table spec host = (.ok accepted, host) := by
    rw [selected_apply, named]
    exact Prod.ext filtered rfl
  have ran : count table filters host = _ := Action.ofExcept_bind_ok parsed _ host
  exact perform_of_ok (ran.trans (Action.bind_of_ok picked))

/-- With all columns selected the rows are answered as they are. -/
theorem perform_query_all (moment : Moment) (valid : options.check = .ok checked)
    (all : Selection.ofValue options.select = .ok .all)
    (finds : Finds host table checked.spec options.ordering rows)
    (records : ∀ row ∈ rows, row.isObject = true) :
    perform moment (.query table options) host =
      (.ok (.success (checked.page.answer options.single.truthy rows)), host) :=
  perform_query moment valid finds <|
    projectAll_all all fun row member => records row (checked.page.mem_of_mem_rows member)

end DataGateway.Offline
