import DataGateway.Proofs.Hosted.Answer
import DataGateway.Proofs.Offline.Page
import DataGateway.Proofs.Relational.Page
import DataGateway.Proofs.Rest.OneRow

/-!
# Two ways to ask for one row

Every adapter answers an operation for one row, and a query that wants one row. On the relational adapter
they are the same; on the others they treat some answers differently.

* `Offline.perform_forOne_iff` — the query projects all rows that it finds, the operation only the first;
* `Hosted.perform_forOne_iff` — the query answers with data that counts as false, the operation with null;
* `forOne_agree_iff` — when both ways answer the same, for each adapter.
-/

namespace DataGateway

variable (table columns : Value) (filters : Filters)

/-! ## Tables in memory -/

namespace Offline

/-- The rows that a request for one row finds. -/
def found (tables : Tables) (table : Value) (filters : Filters) : Except Fault Table := do
  let spec ← filters.parse
  let name ← Key.ofValue table
  filterRows spec (tables.rowsOf name)

/-- What the operation makes of these rows. -/
def firstOf (columns : Value) : Table → Except Fault Value
  | [] => .ok .null
  | row :: _ => project columns row

/-- What the query makes of them. -/
def firstOfAll (columns : Value) (rows : Table) : Except Fault Value :=
  (fun taken : Table => taken.headD .null) <$> projectAll columns rows

/-- Of the rows that are selected a result is worked out, and the host stays as it was. -/
theorem selected_bind {table : Value} {filters : Filters} {spec : Spec}
    (parsed : filters.parse = .ok spec) {next : Table → Work Value} {finish : Table → Except Fault Value}
    (works : ∀ rows, next rows = Action.ofExcept (finish rows)) (host : Host Backend) :
    (selected table spec >>= next) host =
      (found host.backend.tables table filters >>= finish, host) := by
  obtain rfl : next = fun rows => Action.ofExcept (finish rows) := funext works
  rw [Action.bind_ofExcept, selected_apply, found, parsed]
  rfl

theorem selectOne_apply (host : Host Backend) : selectOne table columns filters host =
    (found host.backend.tables table filters >>= firstOf columns, host) := by
  rw [selectOne]
  cases parsed : filters.parse with
  | error fault =>
      rw [Action.ofExcept_bind_error rfl, found, parsed]
      rfl
  | ok spec =>
      rw [Action.ofExcept_bind_ok rfl]
      refine selected_bind parsed (fun rows => ?_) host
      cases rows <;> rfl

theorem query_forOne_apply (host : Host Backend) : query table (.forOne columns filters) host =
    (found host.backend.tables table filters >>= firstOfAll columns, host) := by
  rw [query, Query.Options.check_forOne]
  cases parsed : filters.parse with
  | error fault =>
      rw [found, parsed]
      exact Action.ofExcept_bind_error rfl _ host
  | ok spec =>
      refine (Action.ofExcept_bind_ok rfl _ host).trans (selected_bind parsed (fun rows => ?_) host)
      -- there is no order and no page, so the rows are projected as they are
      have taken : (do
          let rows ← Action.ofExcept (projectAll columns rows)
          return rows.headD .null : Work Value) = Action.ofExcept (firstOfAll columns rows) := by
        rw [firstOfAll]
        cases projectAll columns rows <;> rfl
      exact taken

/-- Once the first row has been projected, the others can only make the query fail. -/
theorem firstOfAll_cons {columns row taken : Value} (first : project columns row = .ok taken)
    (rows : Table) :
    firstOfAll columns (row :: rows) = (fun _ => taken) <$> projectAll columns rows := by
  rw [firstOfAll, projectAll, first]
  cases projectAll columns rows <;> rfl

/-- The query fails on a row behind the first one that cannot be projected, and only there. -/
theorem perform_forOne_iff (moment : Moment) (host : Host Backend) :
    (perform moment (.query table (.forOne columns filters)) host).1 =
      (perform moment (.selectOne table columns filters) host).1 ↔
    ∀ row rows taken, found host.backend.tables table filters = .ok (row :: rows) →
      project columns row = .ok taken → ∃ others, projectAll columns rows = .ok others := by
  have wish : body moment (.query table (.forOne columns filters)) host = _ :=
    query_forOne_apply table columns filters host
  have one : body moment (.selectOne table columns filters) host = _ :=
    selectOne_apply table columns filters host
  rw [perform, perform, Profile.resolve_response rfl, Profile.resolve_response rfl, wish, one]
  rcases found host.backend.tables table filters with fault | (_ | ⟨row, rows⟩)
  · refine iff_of_true rfl fun _ _ _ present => ?_
    cases present
  · refine iff_of_true rfl fun _ _ _ present => ?_
    cases present
  · change profile.responseTo _ (firstOfAll columns (row :: rows)) =
      profile.responseTo _ (project columns row) ↔ _
    cases first : project columns row with
    | error fault =>
        have stopped : firstOfAll columns (row :: rows) = .error fault := by
          rw [firstOfAll, projectAll, first]
          rfl
        rw [stopped]
        refine iff_of_true rfl fun _ _ taken same said => ?_
        cases same
        cases first.symm.trans said
    | ok taken =>
        rw [firstOfAll_cons first]
        refine Profile.responseTo_ok_iff.trans ?_
        rw [map_eq_ok_iff]
        constructor
        · rintro ⟨others, projected, -⟩ _ _ _ ⟨⟩ -
          exact ⟨others, projected⟩
        · intro projects
          rcases projects row rows taken rfl first with ⟨others, projected⟩
          exact ⟨others, projected, rfl⟩

end Offline

/-! ## A relational database -/

namespace Relational.Adapter

variable {β : Type} (adapter : Adapter β)

/-- The same statement is carried out, and the same is made of its rows. -/
theorem query_forOne : adapter.query table (.forOne columns filters) =
    adapter.selectOne table columns filters := by
  have stated : statementOf table (.forOne columns filters) =
      (do Sql.Builder.select table columns (← filters.parse) none (.int 1)) := by
    rw [statementOf, Query.Options.check_forOne]
    rcases filters.parse with fault | spec <;> rfl
  rw [Adapter.query, Adapter.selectOne, rows, stated, bind_assoc]
  refine bind_congr fun rows => ?_
  exact congrArg Action.ofExcept (Query.firstOrNull_orElse rows)

theorem perform_forOne (token : String) (host : Host β) :
    (adapter.perform token (.query table (.forOne columns filters)) host).1 =
      (adapter.perform token (.selectOne table columns filters) host).1 := by
  rw [perform, perform, Profile.resolve_response rfl, Profile.resolve_response rfl, body, body,
    query_forOne]

end Relational.Adapter

/-! ## A hosted database -/

namespace Hosted

/-- Asks for one row. -/
def askOne (table columns : Value) (filters : Filters) : Work Reply := do
  let spec ← Action.ofExcept filters.parse
  selecting table columns spec
  chain (.limit (.number 1))
  sendForSingle

theorem selectOne_askOne : selectOne table columns filters =
    (do
      let reply ← askOne table columns filters
      Action.ofExcept (.ok (reply.data.orElse .null))) := by
  simp only [askOne, bind_assoc]
  refine bind_congr fun spec => bind_congr fun _ => bind_congr fun _ => bind_congr fun reply => ?_
  cases reply <;> rfl

theorem query_askOne : query table (.forOne columns filters) =
    (do
      let reply ← askOne table columns filters
      Action.ofExcept (.ok reply.data)) := by
  have checked : (Action.ofExcept (Query.Options.forOne columns filters).check : Work Query.Checked) =
      (fun spec => ⟨spec, none, none⟩) <$> Action.ofExcept filters.parse := by
    rw [Query.Options.check_forOne]
    cases filters.parse <;> rfl
  simp only [query, checked, askOne, bind_map_left, bind_assoc]
  -- without an order and with a limit of one, both make the same calls
  refine bind_congr fun spec => bind_congr fun _ => ?_
  have called : paging (some (.number 1)) none = chain (.limit (.number 1)) := rfl
  simp only [Query.Options.forOne, Value.truthy, if_true, called]
  refine bind_congr fun _ => bind_congr fun reply => ?_
  cases reply <;> rfl

/-- Conditions that have been said to the client all have filters. -/
theorem lowers_of_filter {spec : Spec} {client after : Client}
    (ran : Client.filter spec client = (.ok (), after)) : ∃ calls, Lowers spec calls := by
  induction spec generalizing client with
  | nil => exact ⟨[], .nil⟩
  | cons entry spec ih =>
      rcases entry with ⟨column, condition⟩
      rcases Action.bind_ok ran with ⟨call, same, lowered, rest⟩
      cases filter : filterCall column condition with
      | error fault =>
          rw [filter] at lowered
          cases lowered
      | ok call =>
          rcases Action.bind_ok rest with ⟨_, middle, _, rest⟩
          rcases ih rest with ⟨calls, lowers⟩
          exact ⟨call :: calls, .cons filter lowers⟩

theorem selecting_ok {spec : Spec} {host after : Host Client}
    (ran : selecting table columns spec host = (.ok (), after)) :
    ∃ selection calls, Selection.ofValue columns = .ok selection ∧ Lowers spec calls := by
  rcases Action.bind_ok ran with ⟨_, named, _, ran⟩
  cases selected : Selection.ofValue columns with
  | error fault =>
      rw [selected, Action.ofExcept_bind_error rfl] at ran
      cases ran
  | ok selection =>
      rw [selected, Action.ofExcept_bind_ok rfl] at ran
      rcases Action.bind_ok ran with ⟨_, opened, _, ran⟩
      rw [filter, Host.onBackend_apply] at ran
      have filtered : Client.filter spec opened.backend = (.ok (), _) :=
        Prod.ext (Prod.mk.inj ran).1 rfl
      rcases lowers_of_filter filtered with ⟨calls, lowers⟩
      exact ⟨selection, calls, rfl, lowers⟩

/-- What is wanted of the client, if it can be said. -/
def Asked (columns : Value) (filters : Filters) : Prop :=
  ∃ spec selection calls, filters.parse = .ok spec ∧ Selection.ofValue columns = .ok selection ∧
    Lowers spec calls

/-- Once the request has been built, the next reply comes back. -/
theorem askOne_asked (asked : Asked columns filters) (host : Host Client) :
    (askOne table columns filters host).1 = host.backend.next := by
  rcases asked with ⟨spec, selection, calls, parsed, selected, lowers⟩
  rw [askOne, Action.ofExcept_bind_ok parsed, (records_selecting table selected lowers).then]
  rfl

theorem asked_of_askOne {host : Host Client} {reply : Reply}
    (came : (askOne table columns filters host).1 = .ok reply) : Asked columns filters := by
  have ran : askOne table columns filters host = (.ok reply, (askOne table columns filters host).2) :=
    Prod.ext came rfl
  rcases Action.bind_ok ran with ⟨spec, middle, parsed, ran⟩
  rcases Action.bind_ok ran with ⟨_, _, selecting, _⟩
  rcases selecting_ok table columns selecting with ⟨selection, calls, selected, lowers⟩
  exact ⟨spec, selection, calls, congrArg Prod.fst parsed, selected, lowers⟩

/-- The query answers with data that counts as false, where the operation answers null. -/
theorem perform_forOne_iff (adapter : Adapter) (host : Host Client) :
    (adapter.perform (.query table (.forOne columns filters)) host).1 =
      (adapter.perform (.selectOne table columns filters) host).1 ↔
    (Asked columns filters → ∀ reply, host.backend.next = .ok reply →
      reply.data.truthy = true ∨ reply.data = .null) := by
  rw [Adapter.perform, Adapter.perform, Profile.resolve_response rfl, Profile.resolve_response rfl,
    Adapter.body, Adapter.body, query_askOne, selectOne_askOne, Action.bind_ofExcept,
    Action.bind_ofExcept]
  cases came : (askOne table columns filters host).1 with
  | error fault =>
      refine iff_of_true rfl fun asked reply next => ?_
      rw [askOne_asked table columns filters asked, next] at came
      cases came
  | ok reply =>
      have asked := asked_of_askOne table columns filters came
      rw [askOne_asked table columns filters asked] at came
      have same : reply.data = reply.data.orElse .null ↔
          reply.data.truthy = true ∨ reply.data = .null := by
        unfold Value.orElse
        split <;> simp_all
      refine Profile.responseTo_ok_iff.trans ((Except.ok.injEq ..).to_iff.trans (same.trans ?_))
      constructor
      · intro either _ other next
        cases came.symm.trans next
        exact either
      · exact fun told => told asked reply came

end Hosted

/-! ## All adapters -/

/-- The operation for one row and a query that wants one row are answered alike by the relational adapter;
by the offline one unless a row behind the first one cannot be projected; by the REST adapter unless a
failure names an address that says columns, or the reply says something but a list, a value that counts as
false or a single character; by the hosted one unless the data counts as false without being null. -/
theorem forOne_agree_iff :
    let wish : Operation := .query table (.forOne columns filters)
    let one : Operation := .selectOne table columns filters
    (∀ moment (host : Host Offline.Backend),
      (Offline.perform moment wish host).1 = (Offline.perform moment one host).1 ↔
        ∀ row rows taken, Offline.found host.backend.tables table filters = .ok (row :: rows) →
          Offline.project columns row = .ok taken →
            ∃ others, Offline.projectAll columns rows = .ok others) ∧
    (∀ (β : Type) (adapter : Relational.Adapter β) token (host : Host β),
      (adapter.perform token wish host).1 = (adapter.perform token one host).1) ∧
    (∀ (adapter : Rest.Adapter) (host : Host Rest.Backend),
      (adapter.perform wish host).1 = (adapter.perform one host).1 ↔
        ∀ wanted, Rest.Wanted.of table columns filters = .ok wanted →
          (∀ fault, ¬Rest.TokenUnread host fault) →
          (Rest.NamesAddress host.backend.server.next → wanted.selection = .all) ∧
          ∀ reply v, host.backend.server.next = .ok reply → reply.Says v → Rest.ReadsAlike v) ∧
    (∀ (adapter : Hosted.Adapter) (host : Host Hosted.Client),
      (adapter.perform wish host).1 = (adapter.perform one host).1 ↔
        (Hosted.Asked columns filters → ∀ reply, host.backend.next = .ok reply →
          reply.data.truthy = true ∨ reply.data = .null)) := by
  intro wish one
  refine ⟨?offline, ?relational, ?rest, ?hosted⟩
  case offline => exact Offline.perform_forOne_iff table columns filters
  case relational =>
    intro β adapter
    exact adapter.perform_forOne table columns filters
  case rest =>
    intro adapter
    exact adapter.perform_forOne_iff table columns filters
  case hosted => exact Hosted.perform_forOne_iff table columns filters

/-- A server answers with a single record: the operation takes it for the row, and the query looks for its
first item. -/
theorem forOne_differs :
    let host := Rest.answering (.object [("id", .int 1)])
    let adapter : Rest.Adapter := ⟨⟨"http://localhost"⟩, .null⟩
    let users : Value := .text "users"
    (adapter.perform (.selectOne users (.text "*") .absent) host).1 =
      .ok (.success (.object [("id", .int 1)])) ∧
    (adapter.perform (.query users (.forOne (.text "*") .absent)) host).1 = .ok (.failure "0") := by
  intro host adapter users
  have said : Rest.Wanted.of users (.text "*") .absent = .ok ⟨"/users", [], .all⟩ := by
    rw [Rest.Wanted.of, Offline.ofValue_star]
    rfl
  have told : (Rest.Reply.ofValue (.object [("id", .int 1)])).Says (.object [("id", .int 1)]) :=
    Rest.Reply.says_ofValue (by decide +kernel)
  exact adapter.performs_of_says said (Rest.read_answering _) rfl told

end DataGateway
