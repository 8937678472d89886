import DataGateway.Proofs.Offline.Keyed
import DataGateway.Proofs.Offline.Update

/-!
# Records merged by their ids

A payload of records goes to a table whose rows are told apart by their ids. However often ids are
repeated within the payload, the ids in the table stay apart, and each record of the payload ends in
the one row with its id.

* `indexOfId?_cases` — where the first row with an id is;
* `puts_of_upsertRow`, `putsAll_of_upsertRows` — what a record and a batch do to the table;
* `upsert_merges_by_id` — the operation.
-/

namespace DataGateway.Offline

variable {moment : Moment} {host after : Host Backend} {record : Record} {rows : Table}

/-! ## One record -/

/-- The search ends at the first row with the id, and goes past records only. -/
theorem indexOfId?_cases {id : Value} (known : Fields.get? record "id" = some id) {index : Nat}
    {place : Option Nat} (searched : indexOfId? record index rows = .ok place) :
    (place = none ∧ ∀ row ∈ rows, hasId id row = false) ∨
      ∃ before old behind, rows = before ++ .object old :: behind ∧
        place = some (index + before.length) ∧ (∀ row ∈ before, hasId id row = false) ∧
        hasId id (.object old) = true := by
  induction rows generalizing index with
  | nil =>
      cases searched
      exact .inl ⟨rfl, fun _ none => nomatch none⟩
  | cons row rows ih =>
      rw [indexOfId?, known] at searched
      rcases bind_eq_ok_iff.1 searched with ⟨found, asked, searched⟩
      cases row with
      | object fields =>
          cases asked
          cases here : hasId id (.object fields) with
          | true =>
              have equal : ((Fields.get? fields "id").getD .null).looseEq id = true := here
              rw [equal] at searched
              cases searched
              exact .inr ⟨[], fields, rows, rfl, rfl, (fun _ none => nomatch none), here⟩
          | false =>
              have other : ((Fields.get? fields "id").getD .null).looseEq id = false := here
              rw [other] at searched
              rcases ih searched with ⟨none, absent⟩ | ⟨before, old, behind, rfl, rfl, absent, there⟩
              · exact .inl ⟨none, List.forall_mem_cons.2 ⟨here, absent⟩⟩
              · refine .inr ⟨.object fields :: before, old, behind, rfl, ?_,
                  List.forall_mem_cons.2 ⟨here, absent⟩, there⟩
                simp only [List.length_cons, Option.some.injEq]
                omega
      | _ => cases asked

theorem takes_stamped {id : Value} (known : Fields.get? record "id" = some id) (moment : Moment) :
    Takes record [] (stamped moment id record) := by
  intro column created updated
  rw [stamped, Fields.get?_set_of_ne (beq_false_of_ne updated),
    Fields.get?_set_of_ne (beq_false_of_ne created)]
  refine Eq.trans ?_ (Option.or_none).symm
  cases same : column == "id" with
  | false => exact Fields.get?_set_of_ne same
  | true => rw [eq_of_beq same, Fields.get?_set_self, known]

/-- A record with an id keeps it. -/
theorem newRecord_of_identifies (identifies : Identifies record) (moment : Moment)
    (host : Host Backend) : newRecord moment record host =
      (.ok (.object (stamped moment (idOf (.object record)) record)), host) := by
  have given : idFor moment record = pure (idOf (.object record)) := by
    rw [idFor, ← idOf, identifies.present]
    rfl
  rw [newRecord, given]
  rfl

theorem takes_of_change {old new : Value} (identifies : Identifies record)
    (changed : change moment old (.object record) = .ok new) :
    ∃ before written, old = .object before ∧ new = .object written ∧ Takes record before written := by
  rcases overrides_of_change identifies.names changed with ⟨before, written, rfl, rfl, takes⟩
  exact ⟨before, written, rfl, rfl, fun column _ updated => takes column updated⟩

section Table

variable {table : Value} {name : Key} (named : Key.ofValue table = .ok name)

include named

theorem puts_of_upsertRow (found : Fields.get? host.backend.tables name = some rows)
    (identifies : Identifies record) {new : Value}
    (ran : upsertRow moment table record host = (.ok new, after)) :
    ∃ written newer, new = .object written ∧
      after.backend.tables = Fields.set host.backend.tables name newer ∧
      Puts record written rows newer := by
  have read : rowsOfTable table host = (.ok rows, host) := by
    rw [rowsOfTable_ok named, found, Option.getD_some]
  rw [upsertRow, Action.bind_of_ok read] at ran
  rcases Action.bind_ok ran with ⟨place, middle, looked, ran⟩
  rcases Action.ofExcept_ran looked with ⟨searched, rfl⟩
  rcases indexOfId?_cases identifies.get?_id searched with
    ⟨rfl, absent⟩ | ⟨before, old, behind, rfl, rfl, absent, there⟩
  · rcases Action.bind_ok ran with ⟨fresh, same, made, ran⟩
    rw [newRecord_of_identifies identifies] at made
    cases made
    rcases putTable_ok named (rows ++ [.object (stamped moment (idOf (.object record)) record)]) host
      with ⟨last, put, tables⟩
    rw [Action.bind_of_ok put] at ran
    cases ran
    exact ⟨_, _, rfl, tables, .add absent (takes_stamped identifies.get?_id moment)⟩
  · rcases Action.bind_ok ran with ⟨merged, same, made, ran⟩
    rcases Action.ofExcept_ran made with ⟨changed, rfl⟩
    rcases takes_of_change identifies changed with ⟨row, written, here, rfl, takes⟩
    have place : (before ++ Value.object old :: behind).getD (0 + before.length) .null =
        .object old := by simp
    rw [place] at here
    cases here
    rcases putTable_ok named ((before ++ .object old :: behind).set (0 + before.length)
      (.object written)) host with ⟨last, put, tables⟩
    rw [Action.bind_of_ok put] at ran
    cases ran
    refine ⟨written, _, rfl, tables, ?_⟩
    rw [Nat.zero_add, List.set_append_right _ _ (Nat.le_refl _), Nat.sub_self, List.set_cons_zero]
    exact .merge absent there takes

theorem putsAll_of_upsertRows (found : Fields.get? host.backend.tables name = some rows)
    {records : List Record} (identified : ∀ record ∈ records, Identifies record) {list : Table}
    (ran : upsertRows moment table records host = (.ok list, after)) :
    ∃ written newer, list = written.map Value.object ∧
      after.backend.tables = Fields.set host.backend.tables name newer ∧
      PutsAll records written rows newer := by
  induction records generalizing moment host rows list with
  | nil =>
      cases ran
      exact ⟨[], rows, rfl, (Fields.set_of_get?_eq_some found).symm, .nil rows⟩
  | cons record records ih =>
      rcases List.forall_mem_cons.1 identified with ⟨identifies, others⟩
      rcases Action.bind_ok ran with ⟨new, middle, first, ran⟩
      rcases puts_of_upsertRow named found identifies first with ⟨written, newer, rfl, placed, puts⟩
      rcases Action.bind_ok ran with ⟨rest, last, ran, ended⟩
      cases ended
      have present : Fields.get? middle.backend.tables name = some newer := by
        rw [placed, Fields.get?_set_self]
      rcases ih present others ran with ⟨writtens, newest, rfl, tables, putsAll⟩
      refine ⟨written :: writtens, newest, rfl, ?_, .cons puts putsAll⟩
      rw [tables, placed, Fields.set_set]

end Table

/-! ## The operation -/

/-- What is answered for a payload: the record for a single one, a list otherwise. -/
def answerFor (data : Value) (written : List Record) : Value :=
  if data.isObject then (written.map Value.object).headD .null else .list (written.map Value.object)

theorem upsert_ok {table data : Value} {name : Key} (named : Key.ofValue table = .ok name)
    {records : List Record} (payload : DataGateway.rowsOf data = .ok records)
    (identified : ∀ record ∈ records, Identifies record) {result : Value}
    (ran : upsert moment table data host = (.ok result, after)) :
    ∃ written newer, result = answerFor data written ∧
      after.backend.tables = Fields.set host.backend.tables name newer ∧
      PutsAll records written (host.backend.tables.rowsOf name) newer := by
  rcases ensureTable_ok named host with ⟨opened, first, created⟩
  have present : Fields.get? opened.backend.tables name =
      some (host.backend.tables.rowsOf name) := by
    rw [created, Fields.get?_set_self]
    rfl
  rw [upsert, Action.bind_of_ok first, Action.ofExcept_bind_ok payload] at ran
  rcases Action.bind_ok ran with ⟨list, middle, wrote, ran⟩
  rcases putsAll_of_upsertRows named present identified wrote with
    ⟨written, newer, rfl, tables, puts⟩
  rcases Action.bind_ok ran with ⟨_, last, saved, ran⟩
  have kept : KeepsTables save := keeps_save
  have answered : result = answerFor data written ∧ last = after := by
    rw [answerFor]
    cases single : data.isObject with
    | true =>
        rw [single] at ran
        cases ran
        exact ⟨rfl, rfl⟩
    | false =>
        rw [single] at ran
        cases ran
        exact ⟨rfl, rfl⟩
  rcases answered with ⟨answer, rfl⟩
  refine ⟨written, newer, answer, ?_, puts⟩
  rw [kept.after saved, tables, created, Fields.set_set]

/-- Into a table whose rows are told apart by their ids, a payload that succeeds is merged by ids:
these stay apart; the rows keep their places, unchanged when no record of the payload has their id, and
behind them come the records whose ids are new, in the order in which they first came; each record of
the payload ends in the one row with its id, which holds the last value that such records give a column
and the old value elsewhere, the times aside; and the answer has for each record, in order, the row as
it was written then. -/
theorem upsert_merges_by_id {table data : Value} {name : Key} (named : Key.ofValue table = .ok name)
    {records : List Record} (payload : DataGateway.rowsOf data = .ok records)
    (keyed : Keyed (host.backend.tables.rowsOf name))
    (identified : ∀ record ∈ records, Identifies record) {result : Value}
    (succeeded : perform moment (.upsert table data) host = (.ok (.success result), after)) :
    let rows := host.backend.tables.rowsOf name
    let id (record : Record) : Value := idOf (.object record)
    ∃ (new : Table) (written : List Record),
      after.backend.tables = Fields.set host.backend.tables name new ∧
      Keyed new ∧
      (∃ kept added, new = kept ++ added ∧ List.Forall₂ (Keeps records) rows kept ∧
        List.Forall₂ (fun first row => hasId (id first) row = true) (newcomers rows records) added) ∧
      (∀ record ∈ records, new.filter (hasId (id record)) = [.object (recordWith (id record) new)] ∧
        Receives records (id record) (recordWith (id record) rows) (recordWith (id record) new)) ∧
      result = answerFor data written ∧ written.length = records.length ∧
      ∀ (index : Nat) (record : Record), records[index]? = some record →
        ∃ row, written[index]? = some row ∧
          Receives (records.take (index + 1)) (id record) (recordWith (id record) rows) row := by
  intro rows id
  have ran : upsert moment table data host = (.ok result, after) :=
    Profile.resolve_success rfl succeeded
  rcases upsert_ok named payload identified ran with ⟨written, new, answer, tables, puts⟩
  have apart := puts.keyed identified keyed
  refine ⟨new, written, tables, apart, puts.placed identified keyed, ?_, answer, puts.length_eq, ?_⟩
  · intro record member
    have identifies := identified record member
    have found : new.any (hasId (id record)) = true := by
      have self : hasId (id record) (.object record) = true :=
        identifies.isId.named.looseEq_refl identifies.isId.definite
      rw [puts.any_hasId identified keyed, Bool.or_eq_true]
      exact .inr (List.any_eq_true.2 ⟨record, member, self⟩)
    exact ⟨apart.filter_hasId identifies.isId.named found,
      puts.receives identified keyed identifies.isId⟩
  · intro index record place
    exact puts.getElem?_written identified keyed place

/-- Truth counts as one, so the first and the last of three records go to the row of the administrator,
and the one between them is added. -/
theorem upsert_merges_by_id_users :
    let records : List Record := [[("id", .bool true), ("name", .text "First")],
      [("id", .text "new"), ("name", .text "Second")], [("id", .int 1), ("note", .text "Third")]]
    let data : Value := .list (records.map Value.object)
    let rows := (fresh {}).backend.tables.rowsOf (.ofText "users")
    Keyed rows ∧ (∀ record ∈ records, Identifies record) ∧ (newcomers rows records).length = 1 ∧
    ∃ result after new, perform {} (.upsert (.text "users") data) (fresh {}) =
        (.ok (.success result), after) ∧
      after.backend.tables = Fields.set (fresh {}).backend.tables (.ofText "users") new ∧ Keyed new ∧
      new.filter (hasId (.int 1)) = [.object (recordWith (.int 1) new)] ∧
      Fields.get? (recordWith (.int 1) new) "name" = some (.text "First") ∧
      Fields.get? (recordWith (.int 1) new) "note" = some (.text "Third") := by
  intro records data rows
  have objects : ∀ row ∈ rows, row.isObject = true := by decide +kernel
  have plain : ∀ row ∈ rows, (idOf row).isPlain = true := by decide +kernel
  have keyed : Keyed rows := by
    refine ⟨fun row member => ⟨objects row member, .plain (plain row member)⟩, ?_⟩
    decide +kernel
  have names : ∀ record ∈ records, record.names.Nodup := by decide
  have ids : ∀ record ∈ records, (idOf (.object record)).isNull = false ∧
      (idOf (.object record)).isIndefinite = false ∧ (idOf (.object record)).isPlain = true := by
    decide
  have identified : ∀ record ∈ records, Identifies record := by
    intro record member
    rcases ids record member with ⟨present, definite, nothing⟩
    exact ⟨names record member, present, .plain nothing, definite⟩
  have ended : Succeeded (perform {} (.upsert (.text "users") data) (fresh {})).1 := by
    decide +kernel
  rcases ended with ⟨result, success⟩
  have succeeded := Prod.ext (y := (_, _)) success rfl
  rcases upsert_merges_by_id named_users rfl keyed identified succeeded with
    ⟨new, written, tables, apart, _, merged, _⟩
  have member : [("id", .int 1), ("note", .text "Third")] ∈ records := by simp [records]
  rcases merged _ member with ⟨one, takes⟩
  have received : Receives records (.int 1) (recordWith (.int 1) rows) (recordWith (.int 1) new) := takes
  have holds (column text : String) (created : column ≠ "created_at") (updated : column ≠ "updated_at")
      (said : (lastValue records (.int 1) column).any ((Value.text text).looseEq ·) = true) :
      Fields.get? (recordWith (.int 1) new) column = some (.text text) := by
    have last : lastValue records (.int 1) column = some (.text text) := by
      cases found : lastValue records (.int 1) column with
      | none =>
          rw [found] at said
          cases said
      | some v =>
          rw [found] at said
          exact congrArg some (Value.text_looseEq_iff.1 said)
    rw [received column created updated, last]
    rfl
  exact ⟨keyed, identified, by decide +kernel, result, _, new, succeeded, tables, apart, one,
    holds "name" "First" (by decide) (by decide) (by decide +kernel),
    holds "note" "Third" (by decide) (by decide) (by decide +kernel)⟩

end DataGateway.Offline
