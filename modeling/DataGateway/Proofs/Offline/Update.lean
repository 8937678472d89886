import DataGateway.Proofs.Offline.Profile
import DataGateway.Proofs.Offline.Selection

/-!
# Updates in place

An update writes over the rows that its filters accept, each in its place, and leaves all others. A
row that was written over says a later time of change than before, whatever the clock and the patch
say, so over any run of updates the times of change only go forward.

* `Overrides`, `Later` — what a row that was written over is, and when it says that it was changed;
* `changeRows_admitted` — a table in which every accepted row could be changed;
* `Advances` — the rows of all tables stay in their places, and none says an earlier time of change;
* `Update.advances_run`, `Update.advances_runAll` — what an update does to the tables, however it ends,
  and what a run of updates does;
* `update_in_place` — an update that succeeds, and any run of updates after it.
-/

namespace DataGateway.Offline

variable {moment : Moment} {host after : Host Backend}

/-! ## Rows -/

/-- Has a row the fields of another one with those of a patch over them, but for the time of change? -/
def Overrides (patch : Record) (row new : Value) : Prop :=
  ∃ old fields, row = .object old ∧ new = .object fields ∧ ∀ column, column ≠ "updated_at" →
    Fields.get? fields column = (Fields.get? patch column).or (Fields.get? old column)

/-- Does the second row say a time of change, later than the one that the first row may say? -/
def Later (row new : Value) : Prop :=
  ∃ stamp, changedAt? new = some stamp ∧ ∀ before ∈ changedAt? row, before.instant < stamp.instant

theorem Later.trans {row middle new : Value} (first : Later row middle) (second : Later middle new) :
    Later row new := by
  rcases first with ⟨early, said, after⟩
  rcases second with ⟨late, known, later⟩
  exact ⟨late, known, fun before old => Int.lt_trans (after before old) (later early said)⟩

theorem overrides_of_change {patch : Record} (distinct : patch.names.Nodup) {row new : Value}
    (changed : change moment row (.object patch) = .ok new) : Overrides patch row new := by
  rcases change_ok changed with ⟨old, update, text, rfl, same, _, rfl⟩
  cases same
  refine ⟨old, _, rfl, rfl, ?_⟩
  intro column other
  have apart : (column == "updated_at") = false := beq_false_of_ne other
  rw [Fields.get?_set_of_ne apart, Fields.get?_merge distinct]

theorem later_of_change (clock : moment.InCalendar) {row patch new : Value}
    (changed : change moment row patch = .ok new) : Later row new := by
  rcases change_later clock changed with ⟨stamp, said, _, later⟩
  exact ⟨stamp, said, later⟩

/-! ## Tables in which rows are written over -/

/-- The row that a change makes of a row. -/
def rewritten (change : Value → Except Fault Value) (row : Value) : Value :=
  (change row).toOption.getD row

section Rows

variable {spec : Spec} {change : Value → Except Fault Value}

theorem rewritten_of_ok {row new : Value} (changed : change row = .ok new) :
    rewritten change row = new := by
  rw [rewritten, changed]
  rfl

theorem admits_of_ok {row : Value} {accepted : Bool} (tested : spec.accepts row = .ok accepted) :
    spec.admits row = accepted := by
  rw [Spec.admits, tested]
  rfl

/-- When every accepted row could be changed, each changed row is in the place of the old one. -/
theorem changeRows_admitted {rows written : Table}
    (ended : (changeRows spec.accepts change rows).2 = .ok written) :
    (changeRows spec.accepts change rows).1 =
        rows.map (fun row => if spec.admits row then rewritten change row else row) ∧
      written = (rows.filter spec.admits).map (rewritten change) ∧
      ∀ row ∈ rows, spec.admits row = true → change row = .ok (rewritten change row) := by
  induction rows generalizing written with
  | nil =>
      cases ended
      exact ⟨rfl, rfl, fun _ none => nomatch none⟩
  | cons row rows ih =>
      cases picked : spec.accepts row with
      | error fault =>
          rw [changeRows_untested picked] at ended
          cases ended
      | ok accepted =>
          have admitted := admits_of_ok picked
          cases accepted with
          | false =>
              rw [changeRows_passed picked] at ended ⊢
              rcases ih ended with ⟨placed, listed, all⟩
              refine ⟨by simp [admitted, placed], by simp [admitted, listed], ?_⟩
              intro other member picks
              rcases List.mem_cons.1 member with rfl | member
              · rw [admitted] at picks
                cases picks
              · exact all other member picks
          | true =>
              cases changed : change row with
              | error fault =>
                  rw [changeRows_unchanged picked changed] at ended
                  cases ended
              | ok new =>
                  rw [changeRows_changed picked changed] at ended ⊢
                  rcases map_eq_ok_iff.1 ended with ⟨others, rest, rfl⟩
                  rcases ih rest with ⟨placed, listed, all⟩
                  have first := rewritten_of_ok changed
                  refine ⟨by simp [admitted, placed, first], by simp [admitted, listed, first], ?_⟩
                  intro other member picks
                  rcases List.mem_cons.1 member with rfl | member
                  · rw [first]
                    exact changed
                  · exact all other member picks

end Rows

/-! ## Tables that advance -/

/-- Are the rows of every table still in their places, each as it was or with a later time of
change? -/
def Advances (before after : Tables) : Prop :=
  ∀ name rows, Fields.get? before name = some rows → ∃ newer, Fields.get? after name = some newer ∧
    List.Forall₂ (fun row new => new = row ∨ Later row new) rows newer

theorem Advances.refl (tables : Tables) : Advances tables tables :=
  fun _ rows found => ⟨rows, found, List.forall₂_same.2 fun _ _ => .inl rfl⟩

theorem Advances.trans {first second third : Tables} (one : Advances first second)
    (two : Advances second third) : Advances first third := by
  intro name rows found
  rcases one name rows found with ⟨middle, there, early⟩
  rcases two name middle there with ⟨newer, here, late⟩
  refine ⟨newer, here, ?_⟩
  clear found there here
  induction early generalizing newer with
  | nil =>
      cases late
      exact .nil
  | cons step _ ih =>
      cases late with
      | cons next rest =>
          refine .cons ?_ (ih _ rest)
          rcases step with rfl | step
          · exact next
          · rcases next with rfl | next
            · exact .inr step
            · exact .inr (step.trans next)

theorem advances_set {tables : Tables} {name : Key} {rows newer : Table}
    (found : Fields.get? tables name = some rows)
    (moved : List.Forall₂ (fun row new => new = row ∨ Later row new) rows newer) :
    Advances tables (Fields.set tables name newer) := by
  intro other others there
  cases same : other == name with
  | false =>
      refine ⟨others, ?_, List.forall₂_same.2 fun _ _ => .inl rfl⟩
      rw [Fields.get?_set_of_ne same]
      exact there
  | true =>
      rw [Fields.get?_congr same, found] at there
      cases there
      refine ⟨newer, ?_, moved⟩
      rw [Fields.get?_congr same, Fields.get?_set_self]

/-! ## Updates -/

section Operation

variable {table : Value} {filters : Filters} {patch : Value}

theorem rewriteRows_tables {name : Key} (named : Key.ofValue table = .ok name)
    (test : Value → Except Fault Bool) (patch : Value) (rows : Table) (host : Host Backend) :
    (rewriteRows moment table test patch rows host).1 =
        (changeRows test (change moment · patch) rows).2 ∧
      (rewriteRows moment table test patch rows host).2.backend.tables =
        Fields.set host.backend.tables name (changeRows test (change moment · patch) rows).1 := by
  rcases putTable_ok named (changeRows test (change moment · patch) rows).1 host with
    ⟨after, put, tables⟩
  have ran : rewriteRows moment table test patch rows host =
      ((changeRows test (change moment · patch) rows).2, after) := Action.bind_of_ok put
  rw [ran]
  exact ⟨rfl, tables⟩

/-- Before it looks for the table, an update can only fail. -/
theorem update_apply {spec : Spec} {name : Key} {rows : Table} (parsed : filters.parse = .ok spec)
    (named : Key.ofValue table = .ok name) (found : Fields.get? host.backend.tables name = some rows) :
    update moment table filters patch host = (do
      let changed ← rewriteRows moment table spec.accepts patch rows
      save
      return .list changed : Work Value) host := by
  rw [update, Action.ofExcept_bind_ok parsed, Action.bind_of_ok (requireTable_ok named found)]

/-- However it ends, an update leaves the tables alone or changes rows of the one that it names. -/
theorem update_tables (moment : Moment) (table : Value) (filters : Filters) (patch : Value)
    (host : Host Backend) :
    (update moment table filters patch host).2.backend.tables = host.backend.tables ∨
      ∃ (spec : Spec) (name : Key) (rows : Table), Fields.get? host.backend.tables name = some rows ∧
        (update moment table filters patch host).2.backend.tables =
          Fields.set host.backend.tables name
            (changeRows spec.accepts (change moment · patch) rows).1 := by
  cases parsed : filters.parse with
  | error fault =>
      have failed : update moment table filters patch host = (.error fault, host) :=
        Action.ofExcept_bind_error parsed _ host
      exact .inl (by rw [failed])
  | ok spec =>
      cases named : Key.ofValue table with
      | error fault =>
          have failed : update moment table filters patch host = (.error fault, host) :=
            (Action.ofExcept_bind_ok parsed _ host).trans
              (Action.bind_of_error (Action.ofExcept_bind_error named _ host))
          exact .inl (by rw [failed])
      | ok name =>
          cases found : Fields.get? host.backend.tables name with
          | none =>
              have missing := requireTable_absent named found
              cases said : table.printed with
              | error fault | ok text =>
                  rw [said] at missing
                  have failed : update moment table filters patch host = _ :=
                    (Action.ofExcept_bind_ok parsed _ host).trans (Action.bind_of_error missing)
                  exact .inl (by rw [failed])
          | some rows =>
              refine .inr ⟨spec, name, rows, found, ?_⟩
              -- saving comes last and does nothing to the tables
              rw [update_apply parsed named found,
                tables_bind_keeps fun _ => .bind keeps_save fun _ => .pure _]
              exact (rewriteRows_tables named spec.accepts patch rows host).2

/-- An update that succeeds has changed every row that its filters accept. -/
theorem update_ok {spec : Spec} {name : Key} {rows : Table} (parsed : filters.parse = .ok spec)
    (named : Key.ofValue table = .ok name) (found : Fields.get? host.backend.tables name = some rows)
    {data : Value} (ran : update moment table filters patch host = (.ok data, after)) :
    ∃ changed, (changeRows spec.accepts (change moment · patch) rows).2 = .ok changed ∧
      data = .list changed ∧ after.backend.tables = Fields.set host.backend.tables name
        (changeRows spec.accepts (change moment · patch) rows).1 := by
  rcases rewriteRows_tables named spec.accepts patch rows host with ⟨result, tables⟩
  rw [update_apply parsed named found] at ran
  rcases Action.bind_ok ran with ⟨changed, middle, rewrote, rest⟩
  rcases Action.bind_ok rest with ⟨_, last, saved, ended⟩
  cases ended
  rw [rewrote] at result tables
  have kept : KeepsTables save := keeps_save
  exact ⟨changed, result.symm, rfl, (kept.after saved).trans tables⟩

end Operation

/-! ## Runs of updates -/

/-- An update, and the moment at which it is asked for. -/
structure Update where
  moment : Moment
  table : Value
  filters : Filters
  patch : Value

namespace Update

/-- The state after an update, however it ended. -/
def run (host : Host Backend) (update : Update) : Host Backend :=
  (perform update.moment (.update update.table update.filters update.patch) host).2

/-- The state after updates one after another. -/
def runAll (updates : List Update) (host : Host Backend) : Host Backend := updates.foldl run host

theorem advances_run {update : Update} (clock : update.moment.InCalendar) (host : Host Backend) :
    Advances host.backend.tables (run host update).backend.tables := by
  have tables : (run host update).backend.tables =
      (Offline.update update.moment update.table update.filters update.patch
        host).2.backend.tables := tables_perform _
  rw [tables]
  rcases update_tables update.moment update.table update.filters update.patch host with
    same | ⟨spec, name, rows, found, written⟩
  · rw [same]
    exact .refl _
  · rw [written]
    refine advances_set found ((changeRows_rows rows).imp ?_)
    rintro row new (same | ⟨_, changed⟩)
    · exact .inl same
    · exact .inr (later_of_change clock changed)

theorem advances_runAll {updates : List Update}
    (clocks : ∀ update ∈ updates, update.moment.InCalendar) (host : Host Backend) :
    Advances host.backend.tables (runAll updates host).backend.tables := by
  induction updates generalizing host with
  | nil => exact .refl _
  | cons update updates ih =>
      have step := advances_run (clocks update (List.mem_cons_self ..)) host
      have rest := ih (fun other member => clocks other (List.mem_cons_of_mem _ member))
        (run host update)
      exact step.trans rest

end Update

/-- An update that succeeds keeps the rows in their places, writes the patch over those that the
filters accept and no others, answers with the rows it wrote in the order of the table, and leaves all
other tables alone. The rows it wrote say a later time of change than before, and go on to do so over
any run of updates after it, whatever the clocks say and whether or not these succeed. -/
theorem update_in_place (clock : moment.InCalendar) {table : Value} {name : Key}
    (named : Key.ofValue table = .ok name) {filters : Filters} {spec : Spec}
    (parsed : filters.parse = .ok spec) {rows : Table}
    (found : Fields.get? host.backend.tables name = some rows) {patch : Record}
    (distinct : patch.names.Nodup) {data : Value}
    (succeeded : perform moment (.update table filters (.object patch)) host =
      (.ok (.success data), after)) :
    (∃ renewed : Value → Value,
      Fields.get? after.backend.tables name =
        some (rows.map fun row => if spec.admits row then renewed row else row) ∧
      data = .list ((rows.filter spec.admits).map renewed) ∧
      ∀ row ∈ rows, spec.admits row = true →
        Overrides patch row (renewed row) ∧ Later row (renewed row)) ∧
    Fields.names after.backend.tables = Fields.names host.backend.tables ∧
    (∀ other, (other == name) = false →
      Fields.get? after.backend.tables other = Fields.get? host.backend.tables other) ∧
    ∀ updates : List Update, (∀ update ∈ updates, update.moment.InCalendar) →
      ∃ newer, Fields.get? (Update.runAll updates after).backend.tables name = some newer ∧
        List.Forall₂ (fun row new => Later row new ∨ (spec.admits row = false ∧ new = row))
          rows newer := by
  have ran : update moment table filters (.object patch) host = (.ok data, after) :=
    Profile.resolve_success rfl succeeded
  rcases update_ok parsed named found ran with ⟨changed, ended, rfl, tables⟩
  rcases changeRows_admitted ended with ⟨placed, listed, all⟩
  let renewed : Value → Value := rewritten (change moment · (.object patch))
  have present : Fields.get? after.backend.tables name =
      some (rows.map fun row => if spec.admits row then renewed row else row) := by
    rw [tables, Fields.get?_set_self, placed]
  have later (row : Value) (member : row ∈ rows) (picked : spec.admits row = true) :
      Later row (renewed row) := later_of_change clock (all row member picked)
  refine ⟨⟨renewed, present, congrArg Value.list listed, ?_⟩, ?_, ?_, ?_⟩
  · intro row member picked
    exact ⟨overrides_of_change distinct (all row member picked), later row member picked⟩
  · rw [tables]
    exact Fields.names_set_of_get? found
  · intro other apart
    rw [tables]
    exact Fields.get?_set_of_ne apart
  · intro updates clocks
    rcases Update.advances_runAll clocks after name _ present with ⟨newer, there, advanced⟩
    refine ⟨newer, there, ?_⟩
    rw [List.forall₂_map_left_iff] at advanced
    refine ((List.forall₂_and_left _ _).2 ⟨later, advanced⟩).imp ?_
    rintro row new ⟨first, rest⟩
    cases picked : spec.admits row with
    | false =>
        rw [picked] at rest
        exact rest.elim (fun same => .inr ⟨rfl, same⟩) .inl
    | true =>
        rw [picked, if_pos rfl] at rest
        rcases rest with rfl | rest
        · exact .inl (first picked)
        · exact .inl ((first picked).trans rest)

/-- Under a clock that stands still, a patch that would set the time of change back makes the row of
the administrator say a later one, and so does the same patch once more. -/
theorem update_in_place_administrator :
    let filters : Filters := .other (.object [("name", .object [("ilike", .text "ADMIN")])])
    let spec : Spec := [("name", .ilike (.text "ADMIN"))]
    let patch : Record := [("name", .text "Admin too"), ("updated_at", .text "1969-07-20T20:17:40Z")]
    let again : Update := ⟨{}, .text "users", filters, .object patch⟩
    Moment.InCalendar {} ∧ filters.parse = .ok spec ∧ patch.names.Nodup ∧ ∃ rows data after newer,
      Fields.get? (fresh {}).backend.tables (.ofText "users") = some rows ∧
      (rows.filter spec.admits).length = 1 ∧
      perform {} (.update (.text "users") filters (.object patch)) (fresh {}) =
        (.ok (.success data), after) ∧
      Fields.get? (Update.runAll [again] after).backend.tables (.ofText "users") = some newer ∧
      List.Forall₂ (fun row new => Later row new ∨ (spec.admits row = false ∧ new = row))
        rows newer := by
  intro filters spec patch again
  have there : Fields.has (fresh {}).backend.tables (.ofText "users") = true := by decide +kernel
  have one : (((fresh {}).backend.tables.rowsOf (.ofText "users")).filter spec.admits).length = 1 := by
    decide +kernel
  have ended : Succeeded (perform {} (.update (.text "users") filters (.object patch)) (fresh {})).1 := by
    decide +kernel
  have parsed : filters.parse = .ok spec := rfl
  have distinct : patch.names.Nodup := by decide
  have clocks : ∀ update ∈ [again], update.moment.InCalendar :=
    List.forall_mem_singleton.2 inCalendar_default
  rcases Fields.has_eq_true_iff.1 there with ⟨rows, found⟩
  rcases ended with ⟨data, success⟩
  have succeeded := Prod.ext (y := (_, _)) success rfl
  rcases update_in_place inCalendar_default named_users parsed found distinct succeeded with
    ⟨_, _, _, runs⟩
  rcases runs [again] clocks with ⟨newer, last, advanced⟩
  rw [Tables.rowsOf, found, Option.getD_some] at one
  exact ⟨inCalendar_default, parsed, distinct, rows, data, _, newer, found, one, succeeded, last,
    advanced⟩

end DataGateway.Offline
