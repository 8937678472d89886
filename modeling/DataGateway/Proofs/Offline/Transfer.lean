import DataGateway.Proofs.Json.Document
import DataGateway.Proofs.Offline.Naming
import DataGateway.Proofs.Store.Entry

/-!
# Moving a database

All tables of one adapter go into a document, and another adapter takes them from it. Then it has the
tables of the first in the normal form of JSON, and so does the store of the second. A text that says no
tables changes nothing.

* `exportText_iff`, `decode_exportText` — which tables are exported, and what the document says;
* `importText_ok` — a document of tables is taken over, whatever was there before;
* `importText_refused` — every other text is refused, unless readers give up on it;
* `importText_exportText` — from one adapter into another;
* `exportText_unsavable` — not all tables can be exported.
-/

namespace DataGateway.Offline

/-! ## Tables in a document -/

theorem said_injective : Function.Injective Tables.said := by
  intro named others same
  have fields : named.map (fun entry => (entry.1, Value.list entry.2)) =
      others.map fun entry => (entry.1, Value.list entry.2) := by
    simpa [Tables.said, Fields.mapValues] using same
  refine List.map_injective_iff.2 ?_ fields
  rintro ⟨name, rows⟩ ⟨other, table⟩ entry
  simpa using entry

/-- The normal form of tables with distinct names has their names and their order. -/
theorem normalize_said {named : Fields Table} (distinct : (Fields.names named).Nodup) :
    Json.normalize (Tables.said named) =
      Tables.said (Fields.mapValues (List.map Json.normalize) named) := by
  have names : (Fields.names (Fields.mapValues Value.list named)).Nodup := by
    simpa [Fields.names, Fields.mapValues, Function.comp_def] using distinct
  calc
    Json.normalize (Tables.said named)
        = .object (Fields.mapValues Json.normalize (Fields.mapValues Value.list named)) :=
          Json.normalize_object names
    _ = Tables.said (Fields.mapValues (List.map Json.normalize) named) := by
          simp [Tables.said, Fields.mapValues, Json.normalize, Json.normalizeItems_eq_map]

/-- Tables with distinct names are said as they are when their rows are. -/
theorem normalize_said_iff {named : Fields Table} :
    Json.normalize (Tables.said named) = Tables.said named ↔
      (Fields.names named).Nodup ∧ ∀ entry ∈ named, ∀ row ∈ entry.2, Json.normalize row = row := by
  constructor
  · intro normal
    have distinct := nodup_of_normal normal
    refine ⟨distinct, fun entry member row there => ?_⟩
    rw [Tables.said, Json.normalize_object_iff] at normal
    have rows := normal.2 (entry.1, .list entry.2) (List.mem_map_of_mem member)
    rw [Json.normalize, Json.normalizeItems_eq_map, Value.list.injEq] at rows
    exact Json.map_normalize_iff.1 rows row there
  · rintro ⟨distinct, normal⟩
    rw [normalize_said distinct]
    refine congrArg Tables.said ((List.map_congr_left fun entry member => ?_).trans (List.map_id named))
    exact Prod.ext rfl (Json.map_normalize_iff.2 (normal entry member))

/-- Tables that are named by texts, with distinct names, are the tables of some names. -/
theorem exists_ofNamed {tables : Tables} (texts : tables.AllNamed) (distinct : tables.Distinct) :
    ∃ named, tables = Tables.ofNamed named ∧ (Fields.names named).Nodup := by
  have named : ∃ named, tables = Tables.ofNamed named := by
    clear distinct
    induction tables with
    | nil => exact ⟨[], rfl⟩
    | cons entry tables ih =>
        rcases entry with ⟨key, rows⟩
        rcases texts key (List.mem_cons_self ..) with ⟨name, rfl⟩
        rcases ih fun other member => texts other (List.mem_cons_of_mem _ member) with ⟨named, rfl⟩
        exact ⟨(name, rows) :: named, rfl⟩
  rcases named with ⟨named, rfl⟩
  exact ⟨named, rfl, distinct_ofNamed_iff.1 distinct⟩

/-! ## Export -/

/-- Tables that a document has names for are exported. -/
theorem exportText_ok {backend : Backend} {snapshot : Value}
    (said : Tables.snapshot backend.tables = .ok snapshot) :
    exportText backend = .ok (String.ofList (Json.encode Json.indented snapshot)) := by
  rw [exportText, said]
  rfl

theorem exportText_iff {backend : Backend} :
    (∃ text, exportText backend = .ok text) ↔ backend.tables.Savable := by
  constructor
  · rintro ⟨text, exported⟩
    rcases bind_eq_ok_iff.1 exported with ⟨snapshot, said, _⟩
    exact ⟨snapshot, said⟩
  · rintro ⟨snapshot, said⟩
    exact ⟨_, exportText_ok said⟩

/-- What is exported says the normal form of the tables. -/
theorem decode_exportText {backend : Backend} {text : String}
    (exported : exportText backend = .ok text) :
    ∃ snapshot, Tables.snapshot backend.tables = .ok snapshot ∧
      Json.decode text.toList = .ok (Json.normalize snapshot) := by
  rcases bind_eq_ok_iff.1 exported with ⟨snapshot, said, written⟩
  cases written
  refine ⟨snapshot, said, ?_⟩
  rw [String.toList_ofList]
  exact Json.decode_encode Json.isBlank_indented (Tables.writable_of_snapshot said).representable

/-! ## Import -/

/-- Do readers not give up on a text, for its long numbers or its depth? -/
def WithinReach (text : String) : Prop :=
  ∀ problem, Json.decode text.toList = .error problem → ¬problem.cause.IsLimit

/-- Does a text say tables: an object with nothing but lists? -/
def SaysTables (text : String) : Prop :=
  ∃ named, Json.decode text.toList = .ok (Tables.said named)

/-- A document of tables is taken over and saved, and nothing else changes. -/
theorem importText_ok {host : Host Backend} {entries : Store.Memory} {text : String}
    {named : Fields Table} (memory : host.backend.store = .memory entries)
    (writable : Json.Writable (Tables.said named))
    (read : Json.decode text.toList = .ok (Tables.said named)) :
    importText (.text text) host = (.ok (), { host with backend := { host.backend with
      tables := Tables.ofNamed named
      store := .memory (Fields.set entries snapshotKey (Json.normalize (Tables.said named))) } }) := by
  let placed : Host Backend :=
    { host with backend := { host.backend with tables := Tables.ofNamed named } }
  have said : Tables.snapshot placed.backend.tables = .ok (Tables.said named) :=
    Tables.snapshot_ofNamed writable
  have held : placed.backend.store = .memory entries := memory
  calc
    importText (.text text) host
        = save placed := importText_tables host rfl read (tablesOf?_said named)
    _ = _ := by
          rw [save, Host.onBackend_apply, save_memory held said]

/-- Every text within reach that says no tables is refused, and nothing changes. -/
theorem importText_refused (host : Host Backend) {text : String} (reach : WithinReach text)
    (shapeless : ¬SaysTables text) :
    ∃ refusal, importText (.text text) host = (.error (.refused refusal), host) := by
  have octets : documentChars (.text text) = .ok text.toList := rfl
  cases read : Json.decode text.toList with
  | error problem =>
      rcases importText_error host octets read with ⟨fault, ran, said⟩
      rw [said (reach problem read)] at ran
      exact ⟨_, ran⟩
  | ok v =>
      cases shaped : tablesOf? v with
      | none => exact ⟨_, importText_misshapen host octets read shaped⟩
      | some tables =>
          rcases eq_ofNamed_of_tablesOf? shaped with ⟨named, rfl, _⟩
          exact absurd ⟨named, read⟩ shapeless

/-! ## From one adapter into another -/

/-- An adapter exports its tables when they have a document. What it exports another one takes over: the
second has the tables of the first in the normal form of JSON then, its store says the same, and its
session and the rest of its store are as they were. Tables that are named by texts keep their names and
their order, and their records theirs. Every text that says no tables is refused, unless readers give up on
it, and changes nothing. -/
theorem importText_exportText {first second : Host Backend} (reached : Reachable first)
    (other : Reachable second) :
    ((∃ text, exportText first.backend = .ok text) ↔ first.backend.tables.Savable) ∧
      (∀ text, exportText first.backend = .ok text →
        ∃ snapshot after, Tables.snapshot first.backend.tables = .ok snapshot ∧
          importText (.text text) second = (.ok (), after) ∧
          Tables.snapshot after.backend.tables = .ok (Json.normalize snapshot) ∧
          after.backend.store.snapshot? = some (Json.normalize snapshot) ∧
          (∀ key, key ≠ snapshotKey →
            after.backend.store.read key = second.backend.store.read key) ∧
          after.session = second.session ∧
          (first.backend.tables.AllNamed → after.backend.tables =
            Fields.mapValues (List.map Json.normalize) first.backend.tables)) ∧
      ∀ text, WithinReach text → ¬SaysTables text → ∃ refusal,
        importText (.text text) second = (.error (.refused refusal), second) ∧
          (Fault.refused refusal).label = "ValidationError" := by
  refine ⟨exportText_iff, ?_, ?_⟩
  · intro text exported
    rcases decode_exportText exported with ⟨snapshot, said, read⟩
    have writable := (Tables.writable_of_snapshot said).normalize
    rcases Tables.exists_said_of_snapshot said with ⟨named, rfl⟩
    rcases Tables.exists_said_of_normalize named with ⟨stored, normal⟩
    rcases other.holds with ⟨before, holds⟩
    rcases Backend.inMemory_of_snapshot? holds.said with ⟨entries, memory⟩
    rw [normal] at read writable
    refine ⟨_, _, said, importText_ok memory writable read, ?_, ?_, ?_, rfl, ?_⟩
    · rw [normal]
      exact Tables.snapshot_ofNamed writable
    · have again : Json.normalize (Tables.said stored) = Json.normalize (Tables.said named) := by
        rw [← normal, Json.normalize_normalize]
      exact Fields.get?_set_self.trans (congrArg some again)
    · intro key apart
      have distinct : (key == snapshotKey) = false := beq_eq_false_iff_ne.2 apart
      rw [memory, Store.read, Store.Memory.read, Fields.get?_set_of_ne distinct]
      rfl
    · intro texts
      rcases exists_ofNamed texts reached.distinct with ⟨tables, same, distinct⟩
      have own : Tables.said tables = Tables.said named := by
        rw [same] at said
        exact (Tables.snapshot_ofNamed_iff.1 said).2.symm
      have normalized : Fields.mapValues (List.map Json.normalize) tables = stored := by
        refine said_injective ?_
        rw [← normalize_said distinct, own, normal]
      rw [same, ← normalized]
      simp [Tables.ofNamed, Fields.mapValues]
  · intro text reach shapeless
    rcases importText_refused second reach shapeless with ⟨refusal, ran⟩
    exact ⟨refusal, ran, rfl⟩

/-- A record that no document says as it is. -/
def noted : Event :=
  .call {} (.insert (.text "notes") (.object [("tags", .tuple [.text "é", .float (.nan 1)])]))

/-- A table with such a record goes from one adapter into another, and a list is no database. -/
theorem importText_exportText_notes :
    (∃ text after, exportText (noted.run (fresh {})).2.backend = .ok text ∧
      importText (.text text) (fresh {}) = (.ok (), after) ∧
      after.backend.tables =
        Fields.mapValues (List.map Json.normalize) (noted.run (fresh {})).2.backend.tables) ∧
      ∃ refusal, importText (.text "[1]") (fresh {}) = (.error (.refused refusal), fresh {}) := by
  have start : Reachable (fresh {}) := reachable_fresh {}
  have texts : ∀ name, noted.WritesTo name → IsText name := by
    intro name own
    cases own
    exact ⟨"notes", rfl⟩
  have named : (noted.run (fresh {})).2.backend.tables.AllNamed :=
    allNamed_run start texts (allNamed_fresh {})
  have savable : (noted.run (fresh {})).2.backend.tables.Savable := by decide +kernel
  have list : Json.decode "[1]".toList = .ok (.list [.int 1]) := by rfl
  have reach : WithinReach "[1]" := by
    intro problem unread
    rw [list] at unread
    cases unread
  have shapeless : ¬SaysTables "[1]" := by
    rintro ⟨tables, said⟩
    rw [list] at said
    cases said
  rcases importText_exportText (.step noted start) start with ⟨exports, imports, refuses⟩
  rcases exports.2 savable with ⟨text, exported⟩
  rcases imports text exported with ⟨_, after, _, ran, _, _, _, _, tables⟩
  rcases refuses "[1]" reach shapeless with ⟨refusal, refused, _⟩
  exact ⟨⟨text, after, exported, ran, tables named⟩, refusal, refused⟩

/-- A table whose name is a tuple. -/
def unsayable : Event :=
  .call {} (.insert (.tuple [.text "t"]) (.object [("id", .int 1)]))

/-- A database with such a table cannot be exported. -/
theorem exportText_unsavable : Reachable (unsayable.run (fresh {})).2 ∧
    ∃ fault, exportText (unsayable.run (fresh {})).2.backend = .error fault := by
  have unsavable : ¬(unsayable.run (fresh {})).2.backend.tables.Savable := by decide +kernel
  refine ⟨.step _ (reachable_fresh {}), ?_⟩
  cases exported : exportText (unsayable.run (fresh {})).2.backend with
  | error fault => exact ⟨fault, rfl⟩
  | ok text => exact absurd (exportText_iff.1 ⟨text, exported⟩) unsavable

end DataGateway.Offline
