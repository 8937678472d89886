import DataGateway.Proofs.Offline.Insertion
import DataGateway.Proofs.Offline.Members

/-!
# Generated ids

The ids that one adapter generates go up, over all operations and whatever the clock and the random
numbers do; no failure and no replacement of the tables sets the counter back. Which ids those are is told
by the records: each row without an id gets the next one, and a row with an id keeps it.

* `Draws` — ids from the generator one after another, with the counter before and after;
* `Stops` — ids that are taken before the clock fails;
* `Rising` — what such ids have in common;
* `Numbered` — rows, the records that they become, and the ids that this takes;
* `Event.Generates` — which ids an event generates, and for what;
* `ids_increase` — the law over runs.
-/

namespace DataGateway

/-- Does an operation give ids to what it writes? -/
def Operation.Identifies : Operation → Prop
  | .insert .. | .insertMany .. | .upsert .. | .signUp .. => True
  | _ => False

namespace Offline

variable {α : Type} {moment : Moment} {table : Value} {name : Key} {host after : Host Backend}

/-! ## The generator -/

/-- The moment of the row at an index. -/
def Moment.ofRow (moment : Moment) : Nat → Moment
  | 0 => moment
  | index + 1 => moment.next.ofRow index

/-- Ids that are generated one after another, each at the moment of a row, with the last id before and
after them. -/
inductive Draws (moment : Moment) : Int → List Int → Int → Prop where
  | nil (lastId : Int) : Draws moment lastId [] lastId
  | cons {backend next : Backend} {id last : Int} {ids : List Int} (index : Nat) :
      Backend.generateId (moment.ofRow index) backend = (.ok id, next) →
      Draws moment next.lastId ids last → Draws moment backend.lastId (id :: ids) last

/-- Ids go up from one number to another. -/
structure Rising (first : Int) (ids : List Int) (last : Int) : Prop where
  le : first ≤ last
  within : ∀ id ∈ ids, first < id ∧ id ≤ last
  pairwise : ids.Pairwise (· < ·)

section Rising

variable {first middle last id : Int} {ids others : List Int}

theorem Rising.nil (first : Int) : Rising first [] first :=
  ⟨Int.le_refl _, fun _ none => (nomatch none), .nil⟩

theorem Rising.single (lt : first < id) : Rising first [id] id where
  le := Int.le_of_lt lt
  within := List.forall_mem_singleton.2 ⟨lt, Int.le_refl _⟩
  pairwise := List.pairwise_singleton ..

theorem Rising.append (early : Rising first ids middle) (late : Rising middle others last) :
    Rising first (ids ++ others) last where
  le := Int.le_trans early.le late.le
  within := by
    intro id member
    rcases List.mem_append.1 member with member | member
    · rcases early.within id member with ⟨above, below⟩
      exact ⟨above, Int.le_trans below late.le⟩
    · rcases late.within id member with ⟨above, below⟩
      exact ⟨Int.lt_of_le_of_lt early.le above, below⟩
  pairwise := by
    refine List.pairwise_append.2 ⟨early.pairwise, late.pairwise, fun id member other place => ?_⟩
    exact Int.lt_of_le_of_lt (early.within id member).2 (late.within other place).1

/-- A generated id is above the last one, and the last one from then on. -/
theorem generateId_ok {backend next : Backend}
    (generated : Backend.generateId moment backend = (.ok id, next)) :
    backend.lastId < id ∧ next.lastId = id := by
  by_cases readable : moment.Readable
  · rw [generateId_apply readable] at generated
    cases generated
    exact ⟨moment.lt_nextId _, rfl⟩
  · rcases generateId_unreadable readable with ⟨fault, failed⟩
    rw [failed] at generated
    cases generated

theorem Draws.rising (draws : Draws moment first ids last) : Rising first ids last := by
  induction draws with
  | nil first => exact .nil first
  | cons _ generated _ ih =>
      rcases generateId_ok generated with ⟨above, same⟩
      rw [same] at ih
      exact (Rising.single above).append ih

theorem Draws.append (early : Draws moment first ids middle) (late : Draws moment middle others last) :
    Draws moment first (ids ++ others) last := by
  induction early with
  | nil => exact late
  | cons index generated _ ih => exact .cons index generated (ih late)

/-- What is drawn for the rows behind the first one is drawn for the rows. -/
theorem Draws.behind (draws : Draws moment.next first ids last) : Draws moment first ids last := by
  induction draws with
  | nil first => exact .nil first
  | cons index generated _ ih => exact .cons (index + 1) generated ih

theorem draws_nextId (readable : moment.Readable) (lastId : Int) :
    Draws moment lastId [moment.nextId lastId] (moment.nextId lastId) :=
  .cons 0 (generateId_apply readable { lastId, store := .empty }) (.nil _)

end Rising

/-! ## Steps that generate nothing -/

/-- A step that leaves the last id alone. -/
abbrev CountsNothing (step : Work α) : Prop := FixesBackend Backend.lastId step

theorem counts_keep (key : String) (v : Value) : (Backend.keep key v).Fixes Backend.lastId := by
  intro backend
  cases written : backend.store.write key v with
  | error fault =>
      have ran : Backend.keep key v backend = (.error fault, backend) :=
        Action.ofExcept_bind_error written _ backend
      rw [ran]
  | ok store =>
      have ran : Backend.keep key v backend = (.ok (), { backend with store }) :=
        Action.ofExcept_bind_ok written _ backend
      rw [ran]

theorem counts_drop (key : String) : (Backend.drop key).Fixes Backend.lastId := by
  intro backend
  cases gone : backend.store.remove key with
  | error fault =>
      have ran : Backend.drop key backend = (.error fault, backend) :=
        Action.ofExcept_bind_error gone _ backend
      rw [ran]
  | ok result =>
      have ran : Backend.drop key backend = (.ok (), { backend with store := result.2 }) :=
        Action.ofExcept_bind_ok gone _ backend
      rw [ran]

theorem counts_backendSave : Backend.save.Fixes Backend.lastId := by
  intro backend
  cases said : Tables.snapshot backend.tables with
  | error fault =>
      have ran : Backend.save backend = (.error fault, backend) :=
        Action.ofExcept_bind_error said _ backend
      rw [ran]
  | ok snapshot =>
      have ran : Backend.save backend = Backend.keep snapshotKey snapshot backend :=
        Action.ofExcept_bind_ok said _ backend
      rw [ran]
      exact counts_keep snapshotKey snapshot backend

theorem counts_setTables (tables : Tables) : (Backend.setTables tables).Fixes Backend.lastId :=
  .modify fun _ => rfl

theorem counts_seed (moment : Moment) : (Backend.seed moment).Fixes Backend.lastId := by
  intro backend
  rw [Backend.seed, Action.bind_get]
  split
  · exact Action.Fixes.bind (counts_setTables _) (fun _ => counts_backendSave) backend
  · rfl

theorem counts_save : CountsNothing save := Host.fixes_onBackend counts_backendSave

theorem counts_putTable (table : Value) (rows : Table) : CountsNothing (putTable table rows) :=
  .bind (.ofExcept _) fun _ => Host.fixes_onBackend (.modify fun _ => rfl)

theorem counts_ensureTable (table : Value) : CountsNothing (ensureTable table) := by
  refine .bind (.ofExcept _) fun name => .bind .get fun host => ?_
  cases Fields.get? host.backend.tables name with
  | none => exact .bind (Host.fixes_onBackend (.modify fun _ => rfl)) fun _ => .pure _
  | some rows => exact .pure rows

theorem counts_rewriteRows (moment : Moment) (table : Value) (test : Value → Except Fault Bool)
    (patch : Value) (rows : Table) : CountsNothing (rewriteRows moment table test patch rows) :=
  .bind (counts_putTable table _) fun _ => .ofExcept _

theorem counts_keepSession : CountsNothing keepSession := by
  refine .bind .get fun host => ?_
  cases host.session with
  | none => exact .pure _
  | some session => exact Host.fixes_onBackend (counts_keep sessionKey _)

theorem counts_update (moment : Moment) (table : Value) (filters : Filters) (patch : Value) :
    CountsNothing (update moment table filters patch) :=
  .bind (.ofExcept _) fun _ => .bind (fixes_requireTable table) fun _ =>
    .bind (counts_rewriteRows moment table _ patch _) fun _ => .bind counts_save fun _ => .pure _

theorem counts_delete (table : Value) (filters : Filters) : CountsNothing (delete table filters) :=
  .bind (.ofExcept _) fun _ => .bind (fixes_requireTable table) fun _ => .bind (.ofExcept _) fun _ =>
    .bind (counts_putTable table _) fun _ => .bind counts_save fun _ => .pure _

theorem counts_updateProfile (moment : Moment) (params : Value) :
    CountsNothing (updateProfile moment params) := by
  have users (principal patch : Value) : CountsNothing (changeUsers moment principal patch) := by
    refine .bind .get fun host => ?_
    cases Fields.has host.backend.tables (.ofText "users") with
    | false => exact .pure _
    | true =>
        exact .bind (fixes_rowsOfTable usersTable) fun rows =>
          .bind (counts_rewriteRows moment usersTable _ patch rows) fun _ => .pure _
  exact .bind Host.fixes_requireSession fun session => .bind (.ofExcept _) fun _ =>
    .bind (.ofExcept _) fun _ => .bind (Host.fixes_setPrincipal session _) fun _ =>
      .bind (users _ _) fun _ => .bind counts_save fun _ => .bind counts_keepSession fun _ => .pure _

theorem counts_rpc (moment : Moment) (name params : Value) : CountsNothing (rpc moment name params) := by
  refine .bind fixes_restoreSession fun _ => ?_
  split
  · refine .bind .get fun host => ?_
    cases host.session with
    | none => exact .pure _
    | some session => exact .ofExcept _
  · split
    · exact counts_updateProfile moment params
    · exact .bind (.ofExcept _) fun _ => .pure _

theorem counts_signIn (email password : Value) : CountsNothing (signIn email password) := by
  refine .bind (fixes_rowsOfTable _) fun accounts => .bind (.ofExcept _) fun account => ?_
  cases account with
  | none => exact .fail _
  | some account =>
      exact .bind (fixes_rowsOfTable _) fun users => .bind (.ofExcept _) fun user =>
        .bind (.ofExcept _) fun principal => .bind (.ofExcept _) fun id => .bind (.ofExcept _) fun _ =>
          .bind (Profile.fixes_startSession _ _) fun _ => .bind counts_keepSession fun _ => .pure _

theorem counts_body (moment : Moment) {operation : Operation} (other : ¬operation.Identifies) :
    CountsNothing (body moment operation) := by
  cases operation with
  | select table columns filters => exact (moves_select table columns filters).fixes
  | selectOne table columns filters => exact (moves_selectOne table columns filters).fixes
  | query table options => exact (moves_query table options).fixes
  | count table filters => exact (moves_count table filters).fixes
  | insert table data => exact absurd trivial other
  | insertMany table rows => exact absurd trivial other
  | update table filters patch => exact counts_update moment table filters patch
  | delete table filters => exact counts_delete table filters
  | upsert table data => exact absurd trivial other
  | rpc name params => exact counts_rpc moment name params
  | signIn email password => exact counts_signIn email password
  | signUp email password => exact absurd trivial other
  | signOut =>
      exact .bind (Profile.fixes_endSession (counts_drop sessionKey)) fun _ => .pure _
  | currentUser => exact fixes_currentUser
  | isAuthenticated => exact fixes_isAuthenticated

/-- The envelope of an operation leaves the backend to the operation. -/
theorem backend_perform (operation : Operation) (host : Host Backend) :
    (perform moment operation host).2.backend = (body moment operation host).2.backend := by
  rcases ran : body moment operation host with ⟨result, after⟩
  cases result with
  | ok data => rw [perform_of_ok ran]
  | error fault =>
      rcases perform_of_error ran with ⟨text, journal, answered⟩
      rw [answered]

/-- An operation that ends by saving leaves the tables and the last id that it had before, whether saving
succeeds or not. -/
theorem perform_of_saving {operation : Operation} {answer : Value} {next : Host Backend}
    (ran : body moment operation host = (save >>= fun _ => pure answer : Work Value) next) :
    (perform moment operation host).2.backend.tables = next.backend.tables ∧
      (perform moment operation host).2.backend.lastId = next.backend.lastId ∧
      ∀ data, (perform moment operation host).1 = .ok (.success data) → data = answer := by
  have tables : KeepsTables (save >>= fun _ => pure answer) := .bind keeps_save fun _ => .pure _
  have count : CountsNothing (save >>= fun _ => pure answer) := .bind counts_save fun _ => .pure _
  rw [backend_perform, ran]
  refine ⟨tables next, count next, fun data succeeded => ?_⟩
  have ended : body moment operation host = (.ok data, _) :=
    Profile.resolve_success rfl (Prod.ext succeeded rfl)
  rw [ran] at ended
  exact Action.Yields.bind (fun _ => .pure answer) _ _ _ ended

theorem counts_clear (moment : Moment) : CountsNothing (clear moment) :=
  Host.fixes_onBackend (.bind (counts_setTables []) fun _ =>
    .bind (counts_drop snapshotKey) fun _ => counts_seed moment)

theorem counts_importText (document : Value) : CountsNothing (importText document) := by
  refine .bind (.ofExcept _) fun chars => ?_
  cases Json.decode chars with
  | error problem =>
      dsimp only
      split <;> exact .fail _
  | ok v =>
      dsimp only
      cases tablesOf? v with
      | none => exact .fail _
      | some tables => exact .bind (Host.fixes_onBackend (counts_setTables tables)) fun _ => counts_save

/-! ## Rows and their ids -/

/-- Rows, the records that they become, and the ids that this takes: a row with an id keeps it, and one
without gets the next id. Where records are merged, one whose id is null may also go to a row that has
none. -/
inductive Numbered (merging : Prop) : List Record → List Record → List Int → Prop where
  | nil : Numbered merging [] [] []
  | own {row record : Record} {rows records : List Record} {ids : List Int} :
      (idOf (.object row)).isNull = false →
      (row.names.Nodup → idOf (.object record) = idOf (.object row)) →
      Numbered merging rows records ids → Numbered merging (row :: rows) (record :: records) ids
  | drawn {row record : Record} {rows records : List Record} {id : Int} {ids : List Int} :
      (idOf (.object row)).isNull = true → idOf (.object record) = .int id →
      Numbered merging rows records ids → Numbered merging (row :: rows) (record :: records) (id :: ids)
  | met {row record : Record} {rows records : List Record} {ids : List Int} :
      merging → Fields.get? row "id" = some .null →
      (row.names.Nodup → idOf (.object record) = .null) →
      Numbered merging rows records ids → Numbered merging (row :: rows) (record :: records) ids

section Numbered

variable {merging : Prop} {row record : Record} {rows records : List Record} {ids : List Int}

/-- A row becomes a record with its own id or with the one id that is drawn for it. -/
theorem numbered_admitted (readable : (idOf (.object row)).isNull = true → moment.Readable)
    (lastId : Int) (numbered : Numbered merging rows records ids) :
    ∃ taken, Draws moment lastId taken (admitted moment lastId row).2 ∧
      Numbered merging (row :: rows) ((admitted moment lastId row).1 :: records) (taken ++ ids) := by
  cases absent : (idOf (.object row)).isNull with
  | true =>
      refine ⟨[moment.nextId lastId], ?_, ?_⟩
      · rw [admitted, absent]
        exact draws_nextId (readable absent) lastId
      · rw [admitted, absent]
        exact .drawn absent (idOf_stamped ..) numbered
  | false =>
      refine ⟨[], ?_, ?_⟩
      · rw [admitted, absent]
        exact .nil lastId
      · rw [admitted, absent]
        exact .own absent (fun _ => idOf_stamped ..) numbered

theorem numbered_admittedAll (numberable : Numberable moment rows) (lastId : Int) :
    ∃ ids, Draws moment lastId ids (admittedAll moment lastId rows).2 ∧
      Numbered merging rows (admittedAll moment lastId rows).1 ids := by
  induction rows generalizing moment lastId with
  | nil => exact ⟨[], .nil lastId, .nil⟩
  | cons row rows ih =>
      rcases numberable with ⟨first, others⟩
      rcases ih others (admitted moment lastId row).2 with ⟨ids, later, numbered⟩
      rcases numbered_admitted first lastId numbered with ⟨taken, drawn, all⟩
      exact ⟨taken ++ ids, drawn.append later.behind, all⟩

theorem Numbered.append {first last : List Record} {others : List Int}
    (early : Numbered merging rows records ids) (late : Numbered merging first last others) :
    Numbered merging (rows ++ first) (records ++ last) (ids ++ others) := by
  induction early with
  | nil => exact late
  | own present kept _ ih => exact .own present kept ih
  | drawn absent given _ ih => exact .drawn absent given ih
  | met merges null kept _ ih => exact .met merges null kept ih

end Numbered

/-! ## Insertion -/

section Insertion

variable {rows : List Record}

theorem newRecord_unnumberable {row : Record} (absent : (idOf (.object row)).isNull = true)
    (unreadable : ¬moment.Readable) (host : Host Backend) :
    ∃ fault, newRecord moment row host = (.error fault, host) := by
  rcases generateId_unreadable unreadable with ⟨fault, failed⟩
  have given : (Fields.get? row "id").getD .null = idOf (.object row) := rfl
  have generated := Host.onBackend_apply (Backend.generateId moment) host
  rw [failed] at generated
  have identified : idFor moment row host = (.error fault, host) := by
    rw [idFor, given, absent, if_pos rfl, Action.map_eq_bind, Action.bind_of_error generated]
  exact ⟨fault, Action.bind_of_error identified⟩

/-- The ids that rows take up to one that gets none, for which the clock cannot be read. -/
structure Stops (moment : Moment) (rows : List Record) (first : Int) (ids : List Int) (last : Int) :
    Prop where
  draws : Draws moment first ids last
  numbered : ∃ done rest records, rows = done ++ rest ∧ Numbered False done records ids

theorem newRecords_unnumberable (unnumberable : ¬Numberable moment rows) (host : Host Backend) :
    ∃ fault ids last, newRecords moment rows host =
        (.error fault, { host with backend := { host.backend with lastId := last } }) ∧
      Stops moment rows host.backend.lastId ids last := by
  -- induction on the rows: each one takes an id or none, up to the one that gets none
  induction rows generalizing moment host with
  | nil => exact absurd trivial unnumberable
  | cons row rows ih =>
      by_cases first : (idOf (.object row)).isNull = true → moment.Readable
      · have others : ¬Numberable moment.next rows := fun others => unnumberable ⟨first, others⟩
        have made := newRecord_apply first host
        rcases ih others { host with backend :=
          { host.backend with lastId := (admitted moment host.backend.lastId row).2 } } with
          ⟨fault, ids, last, failed, draws, done, rest, records, rfl, numbered⟩
        rcases numbered_admitted first host.backend.lastId numbered with ⟨taken, drawn, all⟩
        refine ⟨fault, taken ++ ids, last, ?_, drawn.append draws.behind, row :: done, rest, _, rfl, all⟩
        exact (Action.bind_of_ok made).trans (Action.bind_of_error failed)
      · rcases Classical.not_imp.1 first with ⟨absent, unreadable⟩
        rcases newRecord_unnumberable absent unreadable host with ⟨fault, failed⟩
        exact ⟨fault, [], _, Action.bind_of_error failed, .nil _, [], _, [], rfl, .nil⟩

/-- What rows come to that are to be inserted: nothing, ids that nobody gets as there is none for a later
row, or records behind those of the table. -/
inductive Inserts (table : Value) (payload : Except Fault (List Record)) (answer : Table → Value)
    (host : Host Backend) (outcome : Except Fault Response) (after : Host Backend) : List Int → Prop where
  | refused : Failed outcome → Inserts table payload answer host outcome after []
  | wasted {done rest records : List Record} {ids : List Int} : Failed outcome →
      payload = .ok (done ++ rest) → Numbered False done records ids →
      Inserts table payload answer host outcome after ids
  | added {name : Key} {rows records : List Record} {ids : List Int} :
      Key.ofValue table = .ok name → payload = .ok rows → Numbered False rows records ids →
      after.backend.tables = Fields.set host.backend.tables name
        (host.backend.tables.rowsOf name ++ records.map .object) →
      (∀ data, outcome = .ok (.success data) → data = answer (records.map .object)) →
      Inserts table payload answer host outcome after ids

/-- An operation that fails before an id is taken generates none. -/
theorem exists_drawn_of_error {operation : Operation} {fault : Fault} {good : List Int → Prop}
    (failed : body moment operation host = (.error fault, after))
    (same : after.backend.lastId = host.backend.lastId)
    (refused : Failed (perform moment operation host).1 → good []) :
    ∃ ids, Draws moment host.backend.lastId ids (perform moment operation host).2.backend.lastId ∧
      good ids := by
  rcases perform_of_error failed with ⟨text, journal, answered⟩
  refine ⟨[], ?_, refused ⟨text, by rw [answered]⟩⟩
  rw [answered, ← same]
  exact .nil _

theorem insertRows_unnumberable (named : Key.ofValue table = .ok name)
    (unnumberable : ¬Numberable moment rows) (host : Host Backend) :
    ∃ fault ids last, insertRows moment table rows host =
        (.error fault,
          { host with backend := { host.backend.withTable name with lastId := last } }) ∧
      Stops moment rows host.backend.lastId ids last := by
  rcases newRecords_unnumberable unnumberable { host with backend := host.backend.withTable name } with
    ⟨fault, ids, last, failed, stops⟩
  refine ⟨fault, ids, last, ?_, stops⟩
  rw [insertRows, Action.bind_of_ok (ensureTable_apply named host)]
  exact Action.bind_of_error failed

/-- What an operation comes to that inserts the rows of its payload and does nothing else. -/
theorem exists_inserts {operation : Operation} {payload : Except Fault (List Record)}
    {answer : Table → Value} (shape : body moment operation = (do
      let rows ← Action.ofExcept payload
      let inserted ← insertRows moment table rows
      return answer inserted)) (host : Host Backend) :
    let ran := perform moment operation host
    ∃ ids, Draws moment host.backend.lastId ids ran.2.backend.lastId ∧
      Inserts table payload answer host ran.1 ran.2 ids := by
  intro ran
  have whole : body moment operation host = _ := congrFun shape host
  cases read : payload with
  | error fault =>
      rw [Action.ofExcept_bind_error read] at whole
      exact exists_drawn_of_error whole rfl .refused
  | ok rows =>
      rw [Action.ofExcept_bind_ok read] at whole
      cases named : Key.ofValue table with
      | error fault =>
          rw [Action.bind_of_error (insertRows_unnamed named rows host)] at whole
          exact exists_drawn_of_error whole rfl .refused
      | ok name =>
          by_cases numberable : Numberable moment rows
          · rcases numbered_admittedAll numberable host.backend.lastId with ⟨ids, draws, numbered⟩
            rw [Action.bind_congr (insertRows_apply named numberable host), bind_assoc] at whole
            rcases perform_of_saving whole with ⟨tables, count, answered⟩
            refine ⟨ids, ?_, .added named rfl numbered tables answered⟩
            rw [count]
            exact draws
          · rcases insertRows_unnumberable named numberable host with
              ⟨fault, ids, last, failed, draws, done, rest, records, rfl, numbered⟩
            rw [Action.bind_of_error failed] at whole
            rcases perform_of_error whole with ⟨text, journal, answered⟩
            have ended : ran = _ := answered
            rw [ended]
            exact ⟨ids, draws, .wasted ⟨text, rfl⟩ rfl numbered⟩

end Insertion

/-! ## Merging -/

section Merging

variable {record : Record} {rows : Table} {id : Value} {result : Except Fault Value}

/-- A record without an id is not looked for. -/
theorem exists_id_of_indexOfId? {start index : Nat}
    (found : indexOfId? record start rows = .ok (some index)) : ∃ id, Fields.get? record "id" = some id := by
  cases rows with
  | nil => cases found
  | cons row rows =>
      cases known : Fields.get? record "id" with
      | some id => exact ⟨id, rfl⟩
      | none =>
          rw [indexOfId?, known] at found
          cases found

/-- A row keeps the id of the record that is merged into it. -/
theorem idOf_change {old new : Value} (known : Fields.get? record "id" = some id)
    (changed : change moment old (.object record) = .ok new) :
    ∃ written, new = .object written ∧ (record.names.Nodup → idOf (.object written) = id) := by
  rcases change_ok changed with ⟨fields, update, text, rfl, same, -, rfl⟩
  cases same
  refine ⟨_, rfl, fun distinct => ?_⟩
  rw [idOf, Fields.get?_set_of_ne (by decide), Fields.get?_merge distinct, known]
  rfl

/-- What one record comes to that is to be merged: it is written, with an id taken or none, or the attempt
fails and none is taken. -/
inductive UpsertsOne (moment : Moment) (record : Record) (host after : Host Backend) :
    Except Fault Value → Prop where
  | wrote {written : Record} {ids : List Int} : Numbered True [record] [written] ids →
      Draws moment host.backend.lastId ids after.backend.lastId →
      UpsertsOne moment record host after (.ok (.object written))
  | failed (fault : Fault) : after.backend.lastId = host.backend.lastId →
      UpsertsOne moment record host after (.error fault)

section Named

variable (named : Key.ofValue table = .ok name)

include named

/-- A record that meets no row is added. -/
theorem upsertsOne_add (rows : Table) (ran : (do
      let new ← newRecord moment record
      putTable table (rows ++ [new])
      return new : Work Value) host = (result, after)) :
    UpsertsOne moment record host after result := by
  by_cases readable : (idOf (.object record)).isNull = true → moment.Readable
  · rw [Action.bind_of_ok (newRecord_apply readable host),
      Action.bind_of_ok (putTable_apply named _ _)] at ran
    cases ran
    rcases numbered_admitted readable host.backend.lastId .nil with ⟨ids, draws, numbered⟩
    rw [List.append_nil] at numbered
    exact .wrote numbered draws
  · rcases Classical.not_imp.1 readable with ⟨absent, unreadable⟩
    rcases newRecord_unnumberable absent unreadable host with ⟨fault, failed⟩
    rw [Action.bind_of_error failed] at ran
    cases ran
    exact .failed fault rfl

/-- A record that meets a row is merged into it, under the id that they share. -/
theorem upsertsOne_merge (rows : Table) (index : Nat) (old : Value)
    (known : Fields.get? record "id" = some id) (ran : (do
      let merged ← Action.ofExcept (change moment old (.object record))
      putTable table (rows.set index merged)
      return merged : Work Value) host = (result, after)) :
    UpsertsOne moment record host after result := by
  rcases Action.bind_cases ran with ⟨fault, failed, rfl⟩ | ⟨new, middle, made, ran⟩
  · cases (Action.ofExcept_ran failed).2
    exact .failed fault rfl
  rcases Action.ofExcept_ran made with ⟨changed, rfl⟩
  rw [Action.bind_of_ok (putTable_apply named _ _)] at ran
  cases ran
  rcases idOf_change known changed with ⟨written, rfl, kept⟩
  have given : idOf (.object record) = id := by rw [idOf, known, Option.getD_some]
  cases absent : id.isNull with
  | true =>
      have null : id = .null := by
        cases id <;> cases absent
        rfl
      subst null
      exact .wrote (.met trivial known kept .nil) (.nil _)
  | false =>
      have present : (idOf (.object record)).isNull = false := by rw [given, absent]
      exact .wrote (.own present (fun distinct => (kept distinct).trans given.symm) .nil) (.nil _)

end Named

theorem upsertsOne_of_upsertRow (ran : upsertRow moment table record host = (result, after)) :
    UpsertsOne moment record host after result := by
  cases named : Key.ofValue table with
  | error fault =>
      have failed : rowsOfTable table host = (.error fault, host) :=
        Action.ofExcept_bind_error named _ host
      rw [upsertRow, Action.bind_of_error failed] at ran
      cases ran
      exact .failed fault rfl
  | ok name =>
      rw [upsertRow, Action.bind_of_ok (rowsOfTable_ok named)] at ran
      rcases Action.bind_cases ran with ⟨fault, failed, rfl⟩ | ⟨place, middle, looked, ran⟩
      · cases (Action.ofExcept_ran failed).2
        exact .failed fault rfl
      rcases Action.ofExcept_ran looked with ⟨searched, rfl⟩
      -- a record goes to the first row with its id, and only one that has no such row takes an id
      cases place with
      | none => exact upsertsOne_add named _ ran
      | some index =>
          rcases exists_id_of_indexOfId? searched with ⟨id, known⟩
          exact upsertsOne_merge named _ index _ known ran

/-- Records are merged up to one that fails, each with an id taken or none. -/
theorem upsertRows_numbered (moment : Moment) (table : Value) (records : List Record)
    (host : Host Backend) :
    ∃ done rest written middle ids, records = done ++ rest ∧
      upsertRows moment table done host = (.ok (written.map .object), middle) ∧
      Numbered True done written ids ∧
      Draws moment host.backend.lastId ids
        (upsertRows moment table records host).2.backend.lastId ∧
      ∀ all, (upsertRows moment table records host).1 = .ok all →
        rest = [] ∧ all = written.map .object := by
  -- induction on the records; what is left when one of them fails is not looked at
  induction records generalizing moment host with
  | nil =>
      refine ⟨[], [], [], host, [], rfl, rfl, .nil, .nil _, fun all ended => ?_⟩
      cases ended
      exact ⟨rfl, rfl⟩
  | cons record records ih =>
      rcases ran : upsertRow moment table record host with ⟨result, after⟩
      cases upsertsOne_of_upsertRow ran with
      | @wrote first taken one drawn =>
          rcases ih moment.next after with
            ⟨done, rest, written, middle, ids, rfl, wrote, numbered, draws, ended⟩
          have all : upsertRows moment table (record :: (done ++ rest)) host =
              (upsertRows moment.next table (done ++ rest) >>= fun others =>
                pure (.object first :: others) : Work Table) after := Action.bind_of_ok ran
          refine ⟨record :: done, rest, first :: written, middle, taken ++ ids, rfl, ?_,
            one.append numbered, ?_, fun list succeeded => ?_⟩
          · exact (Action.bind_of_ok ran).trans (Action.bind_of_ok wrote)
          · rw [all, Action.bind_idle fun _ _ => rfl]
            exact drawn.append draws.behind
          · rw [all] at succeeded
            rcases Action.bind_ok (Prod.ext succeeded rfl :
              (upsertRows moment.next table (done ++ rest) >>= fun others =>
                pure (.object first :: others) : Work Table) after = (.ok list, _)) with
              ⟨others, last, later, listed⟩
            cases listed
            rcases ended others (congrArg Prod.fst later) with ⟨none, rfl⟩
            exact ⟨none, rfl⟩
      | failed fault same =>
          have stopped : upsertRows moment table (record :: records) host = (.error fault, after) :=
            Action.bind_of_error ran
          refine ⟨[], record :: records, [], host, [], rfl, rfl, .nil, ?_, fun all ended => ?_⟩
          · rw [stopped, same]
            exact .nil _
          · rw [stopped] at ended
            cases ended

/-- What records come to that are to be merged: nothing, or the merging of the first of them. -/
inductive Upserts (moment : Moment) (table data : Value) (host : Host Backend)
    (outcome : Except Fault Response) : List Int → Prop where
  | refused : Failed outcome → Upserts moment table data host outcome []
  | merged {name : Key} {done rest written : List Record} {middle : Host Backend} {ids : List Int} :
      Key.ofValue table = .ok name → DataGateway.rowsOf data = .ok (done ++ rest) →
      upsertRows moment table done { host with backend := host.backend.withTable name } =
        (.ok (written.map .object), middle) →
      Numbered True done written ids →
      (∀ answer, outcome = .ok (.success answer) → rest = [] ∧ answer = answerFor data written) →
      Upserts moment table data host outcome ids

theorem exists_upserts (data : Value) (host : Host Backend) :
    let ran := perform moment (.upsert table data) host
    ∃ ids, Draws moment host.backend.lastId ids ran.2.backend.lastId ∧
      Upserts moment table data host ran.1 ids := by
  intro ran
  cases named : Key.ofValue table with
  | error fault =>
      have failed : body moment (.upsert table data) host = (.error fault, host) :=
        Action.bind_of_error (Action.ofExcept_bind_error named _ host)
      exact exists_drawn_of_error failed rfl .refused
  | ok name =>
      have opened := Action.bind_of_ok (ensureTable_apply named host) (f := fun _ => (do
        let records ← Action.ofExcept (DataGateway.rowsOf data)
        let written ← upsertRows moment table records
        save
        if data.isObject then return written.headD .null else return .list written : Work Value))
      cases payload : DataGateway.rowsOf data with
      | error fault =>
          rw [Action.ofExcept_bind_error payload] at opened
          exact exists_drawn_of_error opened rfl .refused
      | ok records =>
          rw [Action.ofExcept_bind_ok payload] at opened
          rcases upsertRows_numbered moment table records
            { host with backend := host.backend.withTable name } with
            ⟨done, rest, written, middle, ids, rfl, wrote, numbered, draws, ended⟩
          rcases all : upsertRows moment table (done ++ rest)
            { host with backend := host.backend.withTable name } with ⟨result, last⟩
          rw [all] at draws ended
          cases result with
          | error fault =>
              rw [Action.bind_of_error all] at opened
              have failed : body moment (.upsert table data) host = (.error fault, last) := opened
              rcases perform_of_error failed with ⟨text, journal, answered⟩
              have whole : ran = (.ok (.failure text), { last with journal }) := answered
              rw [whole]
              exact ⟨ids, draws, .merged named payload wrote numbered fun answer success => nomatch success⟩
          | ok list =>
              rcases ended list rfl with ⟨rfl, rfl⟩
              have saving : body moment (.upsert table data) host =
                  (save >>= fun _ => pure (answerFor data written) : Work Value) last := by
                rw [Action.bind_of_ok all] at opened
                refine Eq.trans opened ?_
                rw [answerFor]
                cases data.isObject <;> rfl
              rcases perform_of_saving saving with ⟨-, count, answered⟩
              refine ⟨ids, ?_, .merged named payload wrote numbered fun answer success => ?_⟩
              · rw [count]
                exact draws
              · exact ⟨rfl, answered answer success⟩

end Merging

/-! ## Signing up -/

/-- What signing up comes to: nothing, an id that nobody gets, or a new member with an id. -/
inductive SignsUp (host : Host Backend) (outcome : Except Fault Response) (after : Host Backend) :
    List Int → Prop where
  | refused : Failed outcome → SignsUp host outcome after []
  | wasted (id : Int) : Failed outcome → SignsUp host outcome after [id]
  | enrolled (member : Member) : after.backend.tables = member.enrolIn host.backend.tables →
      (∀ data, outcome = .ok (.success data) → data = member.user) →
      SignsUp host outcome after [member.id]

theorem counts_register (moment : Moment) (id email password name : Value) (accounts : Table) :
    CountsNothing (register moment id email password name accounts) :=
  .bind (counts_putTable _ _) fun _ => .bind (counts_ensureTable _) fun _ =>
    .bind (counts_putTable _ _) fun _ => .bind counts_save fun _ => .bind (.ofExcept _) fun _ =>
      .bind (Profile.fixes_startSession _ _) fun _ => .bind counts_keepSession fun _ => .pure _

section SigningUp

variable {email password : Value}

/-- The tables of a new member are those that the rest of signing up leaves. -/
theorem enrolIn_of_register {id : Int} {address part : String} :
    (register moment (.int id) (.text address) password (.text part)
        (host.backend.tables.rowsOf (.ofText "auth_users"))
        { host with backend := { host.backend.withTable (.ofText "auth_users") with lastId := id } }
      ).2.backend.tables =
      Member.enrolIn ⟨address, password, id, part, moment⟩ host.backend.tables := by
  rw [register_tables, Backend.withTable, Fields.set_set, Fields.get?_set_of_ne users_ne_accounts]
  rfl

/-- Once the address has stood the checks, an id is taken whatever comes of it. -/
theorem exists_signsUp_of_checked (allowed : requireCredentials email password = .ok ())
    (unused : requireNewEmail email (host.backend.tables.rowsOf (.ofText "auth_users")) = .ok ())
    (readable : moment.Readable) :
    let ran := perform moment (.signUp email password) host
    ∃ ids, Draws moment host.backend.lastId ids ran.2.backend.lastId ∧ SignsUp host ran.1 ran.2 ids := by
  intro ran
  let id : Int := moment.nextId host.backend.lastId
  have draws : Draws moment host.backend.lastId [id] id := draws_nextId readable _
  have generated : Host.onBackend (Backend.generateId moment)
      { host with backend := host.backend.withTable (.ofText "auth_users") } = (.ok id, { host with
        backend := { host.backend.withTable (.ofText "auth_users") with lastId := id } }) := by
    rw [Host.onBackend_apply, generateId_apply readable]
    rfl
  have whole : body moment (.signUp email password) host = _ :=
    congrFun (signUp_eq moment email password) host
  rw [Action.ofExcept_bind_ok allowed, Action.bind_of_ok (ensureTable_apply named_accounts host),
    Action.ofExcept_bind_ok unused, Action.map_eq_bind, bind_assoc, Action.bind_of_ok generated,
    pure_bind] at whole
  -- the id is taken before the address is taken apart, so it is lost when that fails
  cases split : localPart email with
  | error fault =>
      have failed : body moment (.signUp email password) host = _ :=
        whole.trans (Action.ofExcept_bind_error split _ _)
      rcases perform_of_error failed with ⟨text, journal, answered⟩
      have ended : ran = _ := answered
      rw [ended]
      exact ⟨[id], draws, .wasted id ⟨text, rfl⟩⟩
  | ok name =>
      rcases text_of_localPart split with ⟨address, part, rfl, rfl⟩
      rw [Action.ofExcept_bind_ok split] at whole
      have left : ran.2.backend = _ := (backend_perform _ host).trans (congrArg (·.2.backend) whole)
      refine ⟨[id], ?_, .enrolled ⟨address, password, id, part, moment⟩ ?_ fun data success => ?_⟩
      · have count : ran.2.backend.lastId = id := by
          rw [left]
          exact counts_register moment (.int id) (.text address) password (.text part) _ _
        rw [count]
        exact draws
      · rw [left]
        exact enrolIn_of_register
      · have ended : body moment (.signUp (.text address) password) host = (.ok data, _) :=
          Profile.resolve_success rfl (Prod.ext success rfl)
        exact yields_register _ _ _ (whole.symm.trans ended)

theorem exists_signsUp (email password : Value) (host : Host Backend) :
    let ran := perform moment (.signUp email password) host
    ∃ ids, Draws moment host.backend.lastId ids ran.2.backend.lastId ∧ SignsUp host ran.1 ran.2 ids := by
  intro ran
  have whole : body moment (.signUp email password) host = _ :=
    congrFun (signUp_eq moment email password) host
  cases allowed : requireCredentials email password with
  | error fault =>
      have failed := whole.trans (Action.ofExcept_bind_error allowed _ host)
      exact exists_drawn_of_error failed rfl .refused
  | ok =>
      rw [Action.ofExcept_bind_ok allowed,
        Action.bind_of_ok (ensureTable_apply named_accounts host)] at whole
      cases unused : requireNewEmail email (host.backend.tables.rowsOf (.ofText "auth_users")) with
      | error fault =>
          have failed := whole.trans (Action.ofExcept_bind_error unused _ _)
          exact exists_drawn_of_error failed rfl .refused
      | ok =>
          by_cases readable : moment.Readable
          · exact exists_signsUp_of_checked allowed unused readable
          · rcases generateId_unreadable readable with ⟨fault, failed⟩
            have generated := Host.onBackend_apply (Backend.generateId moment)
              { host with backend := host.backend.withTable (.ofText "auth_users") }
            rw [failed] at generated
            rw [Action.ofExcept_bind_ok unused, Action.map_eq_bind, bind_assoc] at whole
            exact exists_drawn_of_error (whole.trans (Action.bind_of_error generated)) rfl .refused

end SigningUp

/-! ## Runs -/

/-- Which ids an operation generates, and for what. -/
def Operation.Generates (moment : Moment) (host : Host Backend)
    (ran : Except Fault Response × Host Backend) (ids : List Int) : Operation → Prop
  | .insert table data =>
    Inserts table (DataGateway.rowsOf data)
      (fun records => if data.isObject then records.headD .null else .list records) host ran.1 ran.2 ids
  | .insertMany table rows => Inserts table (batchOf rows) .list host ran.1 ran.2 ids
  | .upsert table data => Upserts moment table data host ran.1 ids
  | .signUp .. => SignsUp host ran.1 ran.2 ids
  | _ => ids = []

/-- Which ids an event generates. Work on the database as a whole generates none. -/
def Event.Generates (host : Host Backend) (ran : Except Fault Response × Host Backend)
    (ids : List Int) : Event → Prop
  | .call moment operation =>
    Draws moment host.backend.lastId ids ran.2.backend.lastId ∧
      Operation.Generates moment host ran ids operation
  | _ => ids = [] ∧ ran.2.backend.lastId = host.backend.lastId

/-- Is an event the end of the adapter, and the begin of another one? -/
def Event.Restarts : Event → Prop
  | .restart _ => True
  | _ => False

/-- The ids that the events of a run generate, one list for each of them. -/
inductive Generation : Host Backend → List Event → List (List Int) → Prop where
  | nil (host : Host Backend) : Generation host [] []
  | cons {host : Host Backend} {event : Event} {events : List Event} {ids : List Int}
      {later : List (List Int)} : event.Generates host (event.run host) ids →
      Generation (event.run host).2 events later → Generation host (event :: events) (ids :: later)

/-- The first event of a run, and the rest of the run. -/
theorem Generation.uncons {event : Event} {events : List Event} {all : List (List Int)}
    (generation : Generation host (event :: events) all) :
    ∃ ids later, all = ids :: later ∧ event.Generates host (event.run host) ids ∧
      Generation (event.run host).2 events later := by
  cases generation with
  | cons generates generation => exact ⟨_, _, rfl, generates, generation⟩

theorem exists_generates_call (moment : Moment) (operation : Operation) (host : Host Backend) :
    ∃ ids, (Event.call moment operation).Generates host ((Event.call moment operation).run host) ids := by
  have idle (other : ¬operation.Identifies) :
      Draws moment host.backend.lastId [] (perform moment operation host).2.backend.lastId := by
    have count : (body moment operation host).2.backend.lastId = host.backend.lastId :=
      counts_body moment other host
    rw [backend_perform, count]
    exact .nil _
  cases operation with
  | insert table data =>
      refine exists_inserts (congrArg (_ >>= ·) (funext fun rows => ?_)) host
      refine congrArg (_ >>= ·) (funext fun inserted => ?_)
      cases data.isObject <;> rfl
  | insertMany table rows =>
      refine exists_inserts (congrArg (_ >>= ·) (funext fun rows => ?_)) host
      exact Action.map_eq_bind _ _
  | upsert table data => exact exists_upserts data host
  | signUp email password => exact exists_signsUp email password host
  | _ => exact ⟨[], idle id, rfl⟩

theorem exists_generates (event : Event) (running : ¬event.Restarts) (host : Host Backend) :
    ∃ ids, event.Generates host (event.run host) ids := by
  cases event with
  | call moment operation => exact exists_generates_call moment operation host
  | restart moment => exact absurd trivial running
  | clear moment =>
      have count : CountsNothing (do clear moment; return .success .null : Work Response) :=
        .bind (counts_clear moment) fun _ => .pure _
      exact ⟨[], rfl, count host⟩
  | exportText => exact ⟨[], rfl, rfl⟩
  | importText document =>
      have count : CountsNothing (do importText document; return .success .null : Work Response) :=
        .bind (counts_importText document) fun _ => .pure _
      exact ⟨[], rfl, count host⟩

theorem Event.Generates.rising {event : Event} {ran : Except Fault Response × Host Backend}
    {ids : List Int} (generates : event.Generates host ran ids) :
    Rising host.backend.lastId ids ran.2.backend.lastId := by
  cases event with
  | call moment operation => exact generates.1.rising
  | _ =>
      rcases generates with ⟨rfl, same⟩
      rw [same]
      exact .nil _

theorem exists_generation (events : List Event) (running : ∀ event ∈ events, ¬event.Restarts)
    (host : Host Backend) : ∃ ids, Generation host events ids := by
  induction events generalizing host with
  | nil => exact ⟨[], .nil host⟩
  | cons event events ih =>
      rcases List.forall_mem_cons.1 running with ⟨first, others⟩
      rcases exists_generates event first host with ⟨ids, generates⟩
      rcases ih others (event.run host).2 with ⟨later, generation⟩
      exact ⟨ids :: later, .cons generates generation⟩

/-- Over a run the ids go up as they do in each event. -/
theorem Generation.rising {events : List Event} {ids : List (List Int)}
    (generation : Generation host events ids) : ∃ last, Rising host.backend.lastId ids.flatten last := by
  induction generation with
  | nil host => exact ⟨_, .nil _⟩
  | cons generates _ ih =>
      rcases ih with ⟨last, later⟩
      exact ⟨last, generates.rising.append later⟩

/-! ## The law -/

theorem lastId_start? {store : Store} {backend : Backend}
    (started : Backend.start? moment store = .ok backend) : backend.lastId = 0 := by
  rcases bind_eq_ok_iff.1 started with ⟨stored, -, started⟩
  have count := counts_seed moment { tables := Backend.tablesOfStored stored, store }
  rcases bind_eq_ok_iff.1 started with ⟨done, -, ended⟩
  cases ended
  exact count

/-- From the start of an adapter on, whatever is done to it until it ends, and whatever the clock and the
random numbers are for each row: the ids that it generates are positive and go up, so no two are the same.
They are those that the rows without an id got, in their order, and the new members; a row with an id
keeps it and takes none. -/
theorem ids_increase {store : Store} {backend : Backend}
    (started : Backend.start? moment store = .ok backend) {events : List Event}
    (running : ∀ event ∈ events, ¬event.Restarts) :
    ∃ ids, Generation { backend } events ids ∧ (∀ id ∈ ids.flatten, 0 < id) ∧
      ids.flatten.Pairwise (· < ·) ∧ ids.flatten.Nodup := by
  rcases exists_generation events running { backend } with ⟨ids, generation⟩
  rcases generation.rising with ⟨last, rising⟩
  have first : ({ backend } : Host Backend).backend.lastId = 0 := lastId_start? started
  rw [first] at rising
  refine ⟨ids, generation, fun id member => (rising.within id member).1, rising.pairwise, ?_⟩
  exact rising.pairwise.imp Int.ne_of_lt

/-- Between a row without an id and a new member all tables are replaced and the clock goes back to before
the epoch; the member has the greater id. -/
theorem ids_increase_member :
    let events : List Event := [
      .call {} (.insert (.text "users") (.object [("name", .text "New")])),
      .clear { now := -1 },
      .call { now := -1000000, random := 999 } (.signUp (.text "new@example.com") (.text "secret"))]
    Backend.start? {} .empty = .ok (fresh {}).backend ∧ (∀ event ∈ events, ¬event.Restarts) ∧
      ∃ first second, Generation (fresh {}) events [[first], [], [second]] ∧ 0 < first ∧
        first < second := by
  intro events
  have started : Backend.start? {} .empty = .ok (fresh {}).backend := (start?_fresh {}).1
  have running : ∀ event ∈ events, ¬event.Restarts := by simp [events, Event.Restarts]
  rcases ids_increase started running with ⟨all, generation, positive, rising, -⟩
  rcases generation.uncons with ⟨one, rest, rfl, ⟨-, inserts⟩, second⟩
  rcases second.uncons with ⟨two, rest, rfl, ⟨rfl, -⟩, third⟩
  rcases third.uncons with ⟨three, rest, rfl, ⟨-, signsUp⟩, nothing⟩
  cases nothing
  -- neither event fails, so each has generated the one id that it needs
  have inserted : ¬Failed (perform {} (.insert (.text "users") (.object [("name", .text "New")]))
    (fresh {})).1 := by decide +kernel
  have enrolled : ¬Failed ((events[2]).run ((events[1]).run ((events[0]).run (fresh {})).2).2).1 := by
    decide +kernel
  have alone : ∃ id, one = [id] := by
    rcases inserts with failed | ⟨failed, -, -⟩ | ⟨-, payload, numbered, -, -⟩
    · exact absurd failed inserted
    · exact absurd failed inserted
    · cases payload
      cases numbered with
      | own present _ _ => cases present
      | drawn _ _ others =>
          cases others
          exact ⟨_, rfl⟩
      | met merging _ _ _ => exact merging.elim
  have member : ∃ id, three = [id] := by
    rcases signsUp with failed | ⟨id, failed⟩ | ⟨member, -, -⟩
    · exact absurd failed enrolled
    · exact absurd failed enrolled
    · exact ⟨_, rfl⟩
  rcases alone with ⟨first, rfl⟩
  rcases member with ⟨last, rfl⟩
  refine ⟨started, running, first, last, generation, positive first (by simp), ?_⟩
  simpa using rising

end Offline

end DataGateway
