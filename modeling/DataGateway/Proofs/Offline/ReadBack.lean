import DataGateway.Proofs.Offline.Insertion
import DataGateway.Proofs.Offline.Saved
import DataGateway.Proofs.Offline.Transfer

/-!
# Reading back what was inserted

A row that is inserted becomes a record with an id and two stamps, which stands behind all others of its
table. Unless an earlier record has the same id, or the id is the indefinite number, reading one record
by that id gives the new record as it was answered; so it does after a restart, if the snapshot says the
tables as they are.

* `Completes` — what a record is to the row that it was made of;
* `ReadsBack` — a record is what is read by its id;
* `Tables.IsNormal` — tables that are the same in a document;
* `restart_of_normal` — a restart leaves such tables as they are;
* `inserted_reads_back` — the law;
* `insert_unsavable` — a record is not always saved, and inserting it fails then.
-/

namespace DataGateway.Offline

variable {moment : Moment} {table : Value} {name : Key} {host : Host Backend} {row record : Record}
  {id : Value}

/-! ## Records made of rows -/

theorem get?_stamped_of_ne {column : String} (id : Value) (apart : column ≠ "id")
    (created : column ≠ "created_at") (updated : column ≠ "updated_at") :
    Fields.get? (stamped moment id row) column = Fields.get? row column := by
  rw [stamped, Fields.get?_set_of_ne (beq_false_of_ne updated),
    Fields.get?_set_of_ne (beq_false_of_ne created), Fields.get?_set_of_ne (beq_false_of_ne apart)]

theorem get?_stamped_time {column : String} (time : column = "created_at" ∨ column = "updated_at")
    (moment : Moment) (id : Value) (row : Record) :
    Fields.get? (stamped moment id row) column =
      some (((Fields.get? row column).getD .null).orElse (.text moment.stamp)) := by
  rcases time with rfl | rfl
  · rw [stamped, Fields.get?_set_of_ne (by decide), Fields.get?_set_self]
  · rw [stamped, Fields.get?_set_self]

theorem normalize_stamped (normal : Json.normalize (.object row) = .object row)
    (same : Json.normalize id = id) (moment : Moment) :
    Json.normalize (.object (stamped moment id row)) = .object (stamped moment id row) := by
  have time (column : String) :
      Json.normalize (((Fields.get? row column).getD .null).orElse (.text moment.stamp)) =
        ((Fields.get? row column).getD .null).orElse (.text moment.stamp) := by
    rw [Value.orElse]
    split
    · exact Json.normalize_get? normal column
    · rfl
  exact Json.normalize_set (Json.normalize_set (Json.normalize_set normal same) (time _)) (time _)

/-- Is a record what a row becomes? It has the fields of the row, an id, and two times. An id that is
missing or null is generated; a time that is missing or counts as false is that of the moment. -/
structure Completes (moment : Moment) (backend : Backend) (row record : Record) : Prop where
  own : ∀ column, column ≠ "id" → column ≠ "created_at" → column ≠ "updated_at" →
    Fields.get? record column = Fields.get? row column
  given : ∀ id, Fields.get? row "id" = some id → id.isNull = false → Fields.get? record "id" = some id
  generated : (idOf (.object row)).isNull = true → ∃ id next,
    Backend.generateId moment backend = (.ok id, next) ∧ Fields.get? record "id" = some (.int id)
  kept : ∀ column, column = "created_at" ∨ column = "updated_at" →
    ∀ time, Fields.get? row column = some time → time.truthy = true →
      Fields.get? record column = some time
  stamped : ∀ column, column = "created_at" ∨ column = "updated_at" →
    ((Fields.get? row column).getD .null).truthy = false →
      Fields.get? record column = some (.text moment.stamp)

/-- The record that a row becomes is stamped, under its own id or the next one. -/
theorem exists_admitted (moment : Moment) (lastId : Int) (row : Record) : ∃ id,
    (admitted moment lastId row).1 = stamped moment id row ∧
      ((idOf (.object row)).isNull = true ∧ id = .int (moment.nextId lastId) ∨
        (idOf (.object row)).isNull = false ∧ id = idOf (.object row)) := by
  cases absent : (idOf (.object row)).isNull with
  | true => exact ⟨_, by rw [admitted, absent, if_pos rfl], .inl ⟨rfl, rfl⟩⟩
  | false => exact ⟨_, by rw [admitted, absent, if_neg Bool.false_ne_true], .inr ⟨rfl, rfl⟩⟩

theorem completes_admitted (readable : moment.Readable) (backend : Backend) (row : Record) :
    Completes moment backend row (admitted moment backend.lastId row).1 := by
  rcases exists_admitted moment backend.lastId row with ⟨id, made, origin⟩
  rw [made]
  refine ⟨fun column => get?_stamped_of_ne id, fun given found present => ?_, fun absent => ?_,
    fun column time v found counts => ?_, fun column time empty => ?_⟩
  · have own : idOf (.object row) = given := by rw [idOf, found, Option.getD_some]
    rcases origin with ⟨absent, -⟩ | ⟨-, rfl⟩
    · rw [own, present] at absent
      cases absent
    · rw [get?_stamped_id, own]
  · rcases origin with ⟨-, rfl⟩ | ⟨present, -⟩
    · exact ⟨_, _, generateId_apply readable backend, get?_stamped_id ..⟩
    · rw [absent] at present
      cases present
  · rw [get?_stamped_time time, found, Option.getD_some, Value.orElse, if_pos counts]
  · rw [get?_stamped_time time, Value.orElse, empty, if_neg Bool.false_ne_true]

/-! ## Reading by id -/

/-- The filters that ask for one id. -/
def idFilters (id : Value) : Filters := .other (.object [("id", .object [("eq", id)])])

/-- What they ask. -/
def idSpec (id : Value) : Spec := [("id", .eq id)]

theorem parse_idFilters (id : Value) : (idFilters id).parse = .ok (idSpec id) := rfl

theorem concrete_idSpec (id : Value) : (idSpec id).IsConcrete := List.forall_mem_singleton.2 trivial

/-- No text is looked for, so all records can be tested. -/
theorem accepts_idSpec (id : Value) {row : Value} (record : row.isObject = true) :
    (idSpec id).accepts row = .ok ((idSpec id).admits row) :=
  Spec.accepts_of_plain (concrete_idSpec id) (List.forall_mem_singleton.2 rfl) record

/-- A record satisfies the filter for its own id. -/
theorem admits_own (own : Fields.get? record "id" = some id) (present : id.isNull = false)
    (wellNamed : id.WellNamed) (definite : id.isIndefinite = false) :
    (idSpec id).admits (.object record) = true := by
  have equal : id.strictEq id = true := by
    rw [Value.strictEq, wellNamed.looseEq_refl definite, beq_self_eq_true, Bool.and_self]
  have there : Fields.has record "id" = true := Fields.has_eq_true_iff.2 ⟨id, own⟩
  have tells : (idSpec id).Tells record := List.forall_mem_singleton.2 rfl
  rw [Spec.admits, Spec.accepts_object (concrete_idSpec id) tells]
  simp [Except.toOption, idSpec, Spec.selects, Condition.holds, own, there, present, equal]

/-- Is a record what is read of a table by its id? -/
def ReadsBack (table : Value) (record : Record) (host : Host Backend) : Prop :=
  ∀ moment, perform moment
    (.selectOne table (.text "*") (idFilters (idOf (.object record)))) host =
      (.ok (.success (.object record)), host)

/-- The last record of a table is read by its id when no earlier one has it. -/
theorem readsBack_of_last (named : Key.ofValue table = .ok name) {rows : Table}
    (found : Fields.get? host.backend.tables name = some (rows ++ [.object record]))
    (records : ∀ row ∈ rows, row.isObject = true)
    (free : ∀ row ∈ rows, (idSpec (idOf (.object record))).admits row = false)
    (own : (idSpec (idOf (.object record))).admits (.object record) = true) :
    ReadsBack table record host := by
  intro moment
  let spec : Spec := idSpec (idOf (.object record))
  have same : host.backend.tables.rowsOf name = rows ++ [.object record] := by
    rw [Tables.rowsOf, found, Option.getD_some]
  have none : rows.filter spec.admits = [] := by
    refine List.filter_eq_nil_iff.2 fun row member => ?_
    rw [free row member]
    exact Bool.false_ne_true
  have accepted : (rows ++ [Value.object record]).filter spec.admits = [.object record] := by
    rw [List.filter_append, none, List.nil_append, List.filter_singleton, own, cond_true]
  have all : ∀ row ∈ host.backend.tables.rowsOf name, row.isObject = true := by
    rw [same]
    exact List.forall_mem_append.2 ⟨records, List.forall_mem_singleton.2 rfl⟩
  have read := selectOne_ok named (parse_idFilters (idOf (.object record)))
    (fun row member => accepts_idSpec _ (all row member)) all
  rw [same, accepted] at read
  exact perform_of_ok read

/-! ## Tables in a document -/

/-- Are tables their own normal form, as those of a document that says nothing but them? -/
def Tables.IsNormal (tables : Tables) : Prop :=
  ∃ named, tables = Tables.ofNamed named ∧ Json.normalize (Tables.said named) = Tables.said named

/-- Normal rows keep tables normal. -/
theorem Tables.IsNormal.append {tables : Tables} (normal : tables.IsNormal) (text : IsText name)
    {rows : Table} (same : ∀ row ∈ rows, Json.normalize row = row) :
    Tables.IsNormal (Fields.set tables name (tables.rowsOf name ++ rows)) := by
  rcases normal with ⟨named, rfl, normal⟩
  rcases text with ⟨text, rfl⟩
  rcases normalize_said_iff.1 normal with ⟨distinct, others⟩
  refine ⟨_, set_ofNamed named text _, normalize_said_iff.2 ⟨Fields.nodup_names_set distinct, ?_⟩⟩
  intro entry member row there
  rcases Fields.value_of_mem_set member with old | new
  · exact others entry old row there
  · rw [new, Tables.rowsOf, get?_ofNamed] at there
    rcases List.mem_append.1 there with before | last
    · cases found : Fields.get? named text with
      | none => simp [found] at before
      | some rows =>
          rw [found, Option.getD_some] at before
          exact others _ (Fields.mem_of_get? found) row before
    · exact same row last

/-- A new adapter that can read the tables has those that were saved, where they were their own normal
form, and whatever it adds is behind them. -/
theorem restart_of_normal (saved : host.backend.IsSaved) (normal : host.backend.tables.IsNormal)
    (readable : host.backend.Readable) (moment : Moment) : ∃ again others, (Event.restart moment).run host = (.ok (.success .null), again) ∧
      again.backend.tables = host.backend.tables ++ others := by
  rcases normal with ⟨named, same, normal⟩
  rcases saved with ⟨snapshot, said, stored⟩
  rw [same] at said
  rcases Tables.snapshot_ofNamed_iff.1 said with ⟨writable, rfl⟩
  rw [normal] at stored
  have holds : host.backend.Holds named := ⟨stored, normal, writable⟩
  rcases start?_of_holds moment holds readable with ⟨next, started, tables, -⟩
  rw [← same] at tables
  have runs : (Event.restart moment).run host = (.ok (.success .null), { backend := next }) := by
    rw [Event.run, started]
  exact ⟨_, _, runs, tables⟩

/-! ## The law -/

section Law

variable (reached : Reachable host) (clock : moment.InCalendar) (named : Key.ofValue table = .ok name)

include reached clock named

/-- Inserting a row adds its record. It succeeds where the tables can be saved then, and saves them. -/
theorem exists_inserted (row : Record) : ∃ outcome after,
    perform moment (.insert table (.object row)) host = (outcome, after) ∧
    after.backend.tables = Fields.set host.backend.tables name
      (host.backend.tables.rowsOf name ++ [.object (admitted moment host.backend.lastId row).1]) ∧
    (after.backend.tables.Savable → after.backend.IsSaved ∧
      outcome = .ok (.success (.object (admitted moment host.backend.lastId row).1))) ∧
    (¬after.backend.tables.Savable → Failed outcome) := by
  rcases reached.holds with ⟨stored, holds⟩
  have memory : (host.backend.withRows moment name [row]).InMemory :=
    Backend.inMemory_of_snapshot? holds.said
  have ran := insert_row_apply named clock.readable row host
  by_cases savable : (host.backend.withRows moment name [row]).tables.Savable
  · have tables := Backend.saved_tables memory
    exact ⟨_, _, perform_of_saved ran memory savable, tables,
      fun _ => ⟨Backend.isSaved_saved memory savable, rfl⟩, absurd (tables ▸ savable)⟩
  · rcases perform_of_unsaved ran savable with ⟨text, journal, failed⟩
    exact ⟨_, _, failed, rfl, fun savable' => absurd savable' savable, fun _ => ⟨text, rfl⟩⟩

/-- In every reachable state, a row that is inserted becomes a record that completes it, behind all others
of its table, and nothing else changes. The record is answered where the tables can be saved then, and the
insertion fails where they cannot. If no earlier record has its id, and the id is not the indefinite
number, the record is read by its id at any later moment; and if the tables could be saved and can be read
again, and they and the row are their own normal form, it is read so after any restart. -/
theorem inserted_reads_back
    (records : ∀ row ∈ host.backend.tables.rowsOf name, row.isObject = true)
    (wellNamed : (idOf (.object row)).WellNamed) :
    ∃ outcome record after,
      perform moment (.insert table (.object row)) host = (outcome, after) ∧
      (after.backend.tables.Savable → outcome = .ok (.success (.object record))) ∧
      (¬after.backend.tables.Savable → Failed outcome) ∧
      Completes moment host.backend row record ∧
      Fields.get? after.backend.tables name =
        some (host.backend.tables.rowsOf name ++ [.object record]) ∧
      (∀ other, (other == name) = false →
        Fields.get? after.backend.tables other = Fields.get? host.backend.tables other) ∧
      ((∀ earlier ∈ host.backend.tables.rowsOf name,
          (idSpec (idOf (.object record))).admits earlier = false) →
        (idOf (.object record)).isIndefinite = false →
        ReadsBack table record after ∧
        (after.backend.tables.Savable → after.backend.Readable → host.backend.tables.IsNormal →
          IsText name → Json.normalize (.object row) = .object row → ∀ restarted, ∃ again,
            (Event.restart restarted).run after = (.ok (.success .null), again) ∧
              ReadsBack table record again)) := by
  rcases exists_inserted reached clock named row with ⟨outcome, after, ran, tables, succeeds, fails⟩
  have completes := completes_admitted clock.readable host.backend row
  rcases exists_admitted moment host.backend.lastId row with ⟨id, made, origin⟩
  rw [made] at tables succeeds completes
  have found : Fields.get? after.backend.tables name =
      some (host.backend.tables.rowsOf name ++ [.object (stamped moment id row)]) := by
    rw [tables, Fields.get?_set_self]
  refine ⟨outcome, _, after, ran, fun savable => (succeeds savable).2, fails, completes, found,
    fun other apart => ?_, fun free definite => ?_⟩
  · rw [tables, Fields.get?_set_of_ne apart]
  -- a generated id is a number, and one that was given is not null
  have fit : id.isNull = false ∧ id.WellNamed := by
    rcases origin with ⟨-, rfl⟩ | ⟨present, rfl⟩
    · exact ⟨rfl, .plain rfl⟩
    · exact ⟨present, wellNamed⟩
  rw [idOf_stamped] at definite
  have own : (idSpec (idOf (.object (stamped moment id row)))).admits
      (.object (stamped moment id row)) = true := by
    rw [idOf_stamped]
    exact admits_own (get?_stamped_id moment id row) fit.1 fit.2 definite
  refine ⟨readsBack_of_last named found records free own,
    fun savable readable normal text same restarted => ?_⟩
  have normalId : Json.normalize id = id := by
    rcases origin with ⟨-, rfl⟩ | ⟨-, rfl⟩
    · rfl
    · exact Json.normalize_get? same "id"
  -- the new record is its own normal form as well, so the restart leaves it behind the same rows
  have still : after.backend.tables.IsNormal := by
    rw [tables]
    exact normal.append text (List.forall_mem_singleton.2 (normalize_stamped same normalId moment))
  rcases restart_of_normal (succeeds savable).1 still readable restarted with
    ⟨again, others, restarts, loaded⟩
  have there : Fields.get? again.backend.tables name =
      some (host.backend.tables.rowsOf name ++ [.object (stamped moment id row)]) := by
    rw [loaded, Fields.get?, List.lookup_append, ← Fields.get?, found, Option.some_or]
  exact ⟨again, restarts, readsBack_of_last named there records free own⟩

end Law

theorem isNormal_fresh : (fresh {}).backend.tables.IsNormal := by
  rw [(start?_fresh {}).2]
  exact ⟨[("users", _), ("auth_users", _)], rfl, by rfl⟩

/-- A user under an empty text for an id, with an empty time of creation: the id stays, the time is replaced,
and the record is read by its id, before and after a restart. -/
theorem inserted_reads_back_newcomer :
    let users : Value := .text "users"
    let row : Record := [("id", .text ""), ("name", .text "Newcomer"), ("created_at", .text "")]
    ∃ record after again, Reachable (fresh {}) ∧ Moment.InCalendar {} ∧
      perform {} (.insert users (.object row)) (fresh {}) = (.ok (.success (.object record)), after) ∧
      Fields.get? record "id" = some (.text "") ∧ Fields.get? record "name" = some (.text "Newcomer") ∧
      Fields.get? record "created_at" = some (.text (Moment.stamp {})) ∧
      (after.backend.tables.rowsOf (.ofText "users")).length = 3 ∧ ReadsBack users record after ∧
      (Event.restart {}).run after = (.ok (.success .null), again) ∧ ReadsBack users record again := by
  intro users row
  have records : ∀ row ∈ (fresh {}).backend.tables.rowsOf (.ofText "users"), row.isObject = true := by
    decide +kernel
  have free : ∀ earlier ∈ (fresh {}).backend.tables.rowsOf (.ofText "users"),
      (idSpec (.text "")).admits earlier = false := by
    decide +kernel
  have few : ((fresh {}).backend.tables.rowsOf (.ofText "users")).length = 2 := by decide +kernel
  rcases inserted_reads_back (reachable_fresh {}) inCalendar_default (ofValue_text "users") records
    (.plain rfl : (idOf (.object row)).WellNamed) with
    ⟨outcome, record, after, ran, succeeds, -, completes, found, -, reads⟩
  have there : (perform {} (.insert users (.object row)) (fresh {})).2.backend.tables.Savable ∧
      (perform {} (.insert users (.object row)) (fresh {})).2.backend.Readable := by
    decide +kernel
  rw [ran] at there
  rcases there with ⟨savable, readable⟩
  rw [succeeds savable] at ran
  have id : Fields.get? record "id" = some (.text "") := completes.given _ rfl rfl
  have own : idOf (.object record) = .text "" := by rw [idOf, id, Option.getD_some]
  rw [own] at reads
  rcases reads free rfl with ⟨read, persists⟩
  rcases persists savable readable isNormal_fresh ⟨"users", rfl⟩ rfl {} with ⟨again, restarts, still⟩
  have three : (after.backend.tables.rowsOf (.ofText "users")).length = 3 := by
    rw [Tables.rowsOf, found, Option.getD_some, List.length_append, few, List.length_singleton]
  exact ⟨record, after, again, reachable_fresh {}, inCalendar_default, ran, id,
    completes.own "name" (by decide) (by decide) (by decide), completes.stamped _ (.inl rfl) rfl, three,
    read, restarts, still⟩

/-- A table whose name is a tuple cannot be saved, so nothing is inserted there with success. -/
theorem insert_unsavable : Reachable (fresh {}) ∧
    (∃ name, Key.ofValue (.tuple [.text "t"]) = .ok name ∧
      (fresh {}).backend.tables.rowsOf name = []) ∧
    Failed (perform {} (.insert (.tuple [.text "t"]) (.object [("id", .int 1)])) (fresh {})).1 :=
  ⟨reachable_fresh {}, ⟨⟨.tuple [.text "t"], rfl⟩, rfl, by decide +kernel⟩, by decide +kernel⟩

end DataGateway.Offline
