import DataGateway.Proofs.Json.Reading
import DataGateway.Proofs.Offline.Commit
import DataGateway.Proofs.Offline.Effect
import DataGateway.Proofs.Offline.Snapshot
import DataGateway.Proofs.Offline.Work
import Mathlib.Logic.Relation

/-!
# The names of tables

Tables are written one at a time, each under its name. So no two of them ever have one name, and they
are named by texts as long as every request names its table by a text. A document has no name for some
other keys, and tables under such keys cannot be saved.

* `Writes names before after` — the tables after some writes, all under names of a kind;
* `writes_body`, `writes_run` — an operation, and every event, writes to its own tables alone;
* `Reachable.distinct` — in every reachable state the tables have distinct names;
* `allNamed_run` — tables stay named by texts where every request names its table by a text.
-/

namespace DataGateway

/-- The names of the tables that an operation writes to. -/
def Operation.WritesTo : Operation → Key → Prop
  | .insert table _, name | .insertMany table _, name | .update table .., name
  | .delete table _, name | .upsert table _, name => Key.ofValue table = .ok name
  | .rpc .., name => name = .ofText "users"
  | .signUp .., name => name = .ofText "users" ∨ name = .ofText "auth_users"
  | _, _ => False

namespace Offline

variable {α β : Type} {names : Key → Prop} {moment : Moment}

/-! ## Writes -/

/-- One table is written. -/
def Write (names : Key → Prop) (before after : Tables) : Prop :=
  ∃ name rows, names name ∧ after = Fields.set before name rows

/-- Tables are written one after another. -/
abbrev Writes (names : Key → Prop) : Tables → Tables → Prop := Relation.ReflTransGen (Write names)

/-- What the writes of one table keep is kept by all of them. -/
theorem Writes.keeps {good : Tables → Prop} {before after : Tables} (writes : Writes names before after)
    (set : ∀ tables name rows, names name → good tables → good (Fields.set tables name rows))
    (h : good before) : good after := by
  induction writes with
  | refl => exact h
  | tail _ last ih =>
      rcases last with ⟨name, rows, own, rfl⟩
      exact set _ name rows own ih

/-- Are the tables afterwards those from before after some writes? -/
def WritesTables (names : Key → Prop) (host after : Host Backend) : Prop :=
  Writes names host.backend.tables after.backend.tables

instance : IsPreorder (Host Backend) (WritesTables names) where
  refl _ := .refl
  trans _ _ _ first next := Relation.ReflTransGen.trans first next

/-- A step that does nothing to the tables but to write to some. -/
abbrev PutsOnly (names : Key → Prop) (step : Work α) : Prop := step.Moves (WritesTables names)

theorem puts_of_keeps {step : Work α} (keeps : KeepsTables step) : PutsOnly names step := by
  intro host
  have same : (step host).2.backend.tables = host.backend.tables := keeps host
  rw [WritesTables, same]

/-- Of all that work on tables does, only the writes show in them. -/
theorem covers_writes : Covers names (WritesTables names) where
  put _ name rows own := .single ⟨name, rows, own, rfl⟩
  counted _ _ := .refl
  saved _ _ _ _ := .refl

/-! ## Operations -/

theorem puts_updateProfile (users : names (.ofText "users")) (params : Value) :
    PutsOnly names (updateProfile moment params) := by
  refine .bind (puts_of_keeps Host.fixes_requireSession) fun session => ?_
  refine .bind (.ofExcept _) fun fields => .bind (.ofExcept _) fun update => ?_
  refine .bind (puts_of_keeps (Host.fixes_setPrincipal session _)) fun _ => ?_
  refine .bind (moves_changeUsers covers_writes users _ _) fun _ => ?_
  refine .bind (moves_save covers_writes) fun _ => ?_
  exact .bind (puts_of_keeps (KeepsContents.tables keeps_keepSession)) fun _ => .pure _

theorem puts_rpc (users : names (.ofText "users")) (name params : Value) :
    PutsOnly names (rpc moment name params) := by
  refine .bind (puts_of_keeps fixes_restoreSession) fun _ => ?_
  split
  · refine .bind .get fun host => ?_
    cases host.session with
    | none => exact .pure _
    | some session => exact .ofExcept _
  · split
    · exact puts_updateProfile users params
    · exact .bind (.ofExcept _) fun _ => .pure _

theorem puts_signUp (users : names (.ofText "users")) (accounts : names (.ofText "auth_users"))
    (email password : Value) : PutsOnly names (signUp moment email password) := by
  refine .bind (.ofExcept _) fun _ => ?_
  refine .bind (moves_ensureTable covers_writes (own_of_text accounts)) fun _ => ?_
  refine .bind (.ofExcept _) fun _ => .bind (.map _ (moves_generateId covers_writes)) fun id => ?_
  refine .bind (.ofExcept _) fun name => ?_
  refine .bind (moves_putTable covers_writes (own_of_text accounts) _) fun _ => ?_
  refine .bind (moves_ensureTable covers_writes (own_of_text users)) fun _ => ?_
  refine .bind (moves_putTable covers_writes (own_of_text users) _) fun _ => ?_
  refine .bind (moves_save covers_writes) fun _ => .bind (.ofExcept _) fun _ => ?_
  refine .bind (puts_of_keeps (Profile.fixes_startSession _ _)) fun _ => ?_
  exact .bind (puts_of_keeps (KeepsContents.tables keeps_keepSession)) fun _ => .pure _

/-- An operation writes to its own tables alone. -/
theorem writes_body (operation : Operation) :
    PutsOnly operation.WritesTo (body moment operation) := by
  cases operation with
  | insert table data => exact moves_insert covers_writes (fun _ named => named) data
  | insertMany table rows => exact moves_insertMany covers_writes (fun _ named => named) rows
  | update table filters patch => exact moves_update covers_writes (fun _ named => named) filters patch
  | delete table filters => exact moves_delete covers_writes (fun _ named => named) filters
  | upsert table data => exact moves_upsert covers_writes (fun _ named => named) data
  | rpc name params =>
      have users : (Operation.rpc name params).WritesTo (.ofText "users") := rfl
      exact puts_rpc users name params
  | signUp email password => exact puts_signUp (.inl rfl) (.inr rfl) email password
  | _ => exact puts_of_keeps (KeepsContents.tables (keeps_body moment fun reads => reads))

theorem writes_perform (operation : Operation) :
    PutsOnly operation.WritesTo (perform moment operation) := by
  intro host
  rw [WritesTables, tables_perform]
  exact writes_body operation host

/-! ## Databases as a whole -/

/-- Is a name a text? -/
def IsText (name : Key) : Prop := ∃ text, name = .ofText text

theorem writes_withDefaults (stamp : String) (tables : Tables) :
    Writes IsText tables (withDefaults stamp tables) := by
  have own : ∀ entry ∈ defaultTables stamp, IsText entry.1 := by
    intro entry member
    simp only [defaultTables, List.mem_cons, List.not_mem_nil, or_false] at member
    rcases member with rfl | rfl
    · exact ⟨"users", rfl⟩
    · exact ⟨"auth_users", rfl⟩
  unfold withDefaults
  generalize defaultTables stamp = defaults at own
  induction defaults generalizing tables with
  | nil => exact .refl
  | cons entry defaults ih =>
      rcases entry with ⟨name, rows⟩
      have later := ih (if Fields.has tables name then tables else tables ++ [(name, rows)])
        fun e member => own e (List.mem_cons_of_mem _ member)
      rw [List.foldl_cons]
      refine Relation.ReflTransGen.trans ?_ later
      cases there : Fields.has tables name with
      | true => exact .refl
      | false =>
          refine .single ⟨name, rows, own _ (List.mem_cons_self ..), ?_⟩
          exact (Fields.set_of_has_eq_false there).symm

theorem writes_seed (moment : Moment) (backend : Backend) :
    Writes IsText backend.tables (Backend.seed moment backend).2.tables := by
  rw [Backend.seed, Action.bind_get]
  split
  · have same : (Backend.save { backend with tables := withDefaults moment.stamp backend.tables }
        ).2.tables = withDefaults moment.stamp backend.tables :=
      keeps_save { backend := { backend with tables := withDefaults moment.stamp backend.tables } }
    have ran : (Backend.setTables (withDefaults moment.stamp backend.tables) >>= fun _ =>
        Backend.save) backend =
      Backend.save { backend with tables := withDefaults moment.stamp backend.tables } := rfl
    rw [ran, same]
    exact writes_withDefaults moment.stamp backend.tables
  · exact .refl

theorem fixes_drop (key : String) : (Backend.drop key).Fixes Backend.tables := by
  intro backend
  cases gone : backend.store.remove key with
  | error fault =>
      have ran : Backend.drop key backend = (.error fault, backend) :=
        Action.ofExcept_bind_error gone _ backend
      rw [ran]
  | ok result =>
      have ran : Backend.drop key backend = (.ok (), { backend with store := result.2 }) :=
        Action.ofExcept_bind_ok gone _ backend
      rw [ran]

theorem writes_clear (moment : Moment) (host : Host Backend) :
    Writes IsText [] (clear moment host).2.backend.tables := by
  let emptied : Backend := { host.backend with tables := [] }
  rcases dropped : Backend.drop snapshotKey emptied with ⟨result, bare⟩
  have none : bare.tables = [] := (fixes_drop snapshotKey).after dropped
  have whole : (clear moment host).2.backend =
      ((Backend.drop snapshotKey >>= fun _ => Backend.seed moment) emptied).2 := rfl
  rw [whole]
  cases result with
  | error fault =>
      rw [Action.bind_of_error dropped, none]
  | ok done =>
      have seeded := writes_seed moment bare
      rw [none] at seeded
      rw [Action.bind_of_ok dropped]
      exact seeded

/-- There is no new adapter unless the snapshot is read. -/
theorem read_of_start? {store : Store} {backend : Backend}
    (started : Backend.start? moment store = .ok backend) : ∃ v, store.read snapshotKey = .ok v := by
  rcases bind_eq_ok_iff.1 started with ⟨v, read, _⟩
  exact ⟨v, read⟩

theorem writes_start? {store : Store} {v : Value} {backend : Backend}
    (read : store.read snapshotKey = .ok v) (started : Backend.start? moment store = .ok backend) :
    Writes IsText (Backend.tablesOfStored v) backend.tables := by
  have wrote := writes_seed moment { tables := Backend.tablesOfStored v, store }
  rcases seeded : Backend.seed moment { tables := Backend.tablesOfStored v, store } with
    ⟨result, next⟩
  rw [seeded] at wrote
  have run : (Backend.seed moment).run { tables := Backend.tablesOfStored v, store } =
      (result, next) := seeded
  simp only [Backend.start?, read, bind, Except.bind, run] at started
  cases result with
  | error fault => cases started
  | ok done =>
      cases started
      exact wrote

/-! ## Documents -/

/-- Tables of a document go by the names that they have there. -/
theorem eq_ofNamed_of_tablesOf? {v : Value} {tables : Tables} (read : tablesOf? v = some tables) :
    ∃ named, v = Tables.said named ∧ tables = Tables.ofNamed named := by
  cases v with
  | object fields =>
      simp only [tablesOf?] at read
      induction fields generalizing tables with
      | nil =>
          cases read
          exact ⟨[], rfl, rfl⟩
      | cons field fields ih =>
          rcases field with ⟨name, v⟩
          rw [List.mapM_cons] at read
          cases v with
          | list rows =>
              rcases Option.bind_eq_some_iff.1 read with ⟨first, same, read⟩
              cases same
              rcases Option.bind_eq_some_iff.1 read with ⟨others, later, same⟩
              cases same
              rcases ih later with ⟨named, object, rfl⟩
              refine ⟨(name, rows) :: named, ?_, rfl⟩
              simpa [Tables.said, Fields.mapValues] using object
          | _ => cases read
  | _ => cases read

theorem tablesOf?_said (named : Fields Table) :
    tablesOf? (Tables.said named) = some (Tables.ofNamed named) := by
  simp only [Tables.said, tablesOf?]
  induction named with
  | nil => rfl
  | cons entry named ih =>
      rcases entry with ⟨name, rows⟩
      simp only [Fields.mapValues, List.map_cons, List.mapM_cons] at ih ⊢
      rw [ih]
      rfl

theorem distinct_ofNamed_iff {named : Fields Table} :
    (Tables.ofNamed named).Distinct ↔ (Fields.names named).Nodup := by
  have names : (Tables.ofNamed named).names = (Fields.names named).map Key.ofText := by
    simp [Tables.ofNamed, Fields.names, Function.comp_def]
  have same (name other : String) :
      (Key.ofText name == Key.ofText other) = false ↔ name ≠ other := by
    rw [Key.ofText_beq, beq_eq_false_iff_ne]
  rw [Fields.Distinct, names, List.pairwise_map]
  exact List.Pairwise.iff fun name other => same name other

theorem nodup_of_normal {named : Fields Table}
    (normal : Json.normalize (Tables.said named) = Tables.said named) :
    (Fields.names named).Nodup := by
  have distinct : (Fields.names (Fields.mapValues Value.list named)).Nodup :=
    (Json.normalize_object_iff.1 normal).1
  simpa [Fields.names, Fields.mapValues, Function.comp_def] using distinct

section Import

variable {document : Value} {chars : List Char} (host : Host Backend)

theorem importText_error {problem : Json.Problem} (octets : documentChars document = .ok chars)
    (unread : Json.decode chars = .error problem) :
    ∃ fault, importText document host = (.error fault, host) ∧
      (¬problem.cause.IsLimit → fault = .refused (.importUnreadable (problem.text chars))) := by
  have ran : importText document host = _ := Action.ofExcept_bind_ok octets _ host
  simp only [unread] at ran
  cases cause : problem.cause with
  | digits count => exact ⟨_, by rw [ran, cause]; rfl, fun within => absurd trivial within⟩
  | depth kind => exact ⟨_, by rw [ran, cause]; rfl, fun within => absurd trivial within⟩
  | _ => exact ⟨_, by rw [ran, cause]; rfl, fun _ => rfl⟩

theorem importText_misshapen {v : Value} (octets : documentChars document = .ok chars)
    (read : Json.decode chars = .ok v) (misshapen : tablesOf? v = none) :
    importText document host = (.error (.refused .importShape), host) := by
  have ran : importText document host = _ := Action.ofExcept_bind_ok octets _ host
  simp only [read, misshapen] at ran
  exact ran

theorem importText_tables {v : Value} {tables : Tables} (octets : documentChars document = .ok chars)
    (read : Json.decode chars = .ok v) (shaped : tablesOf? v = some tables) :
    importText document host = save { host with backend := { host.backend with tables } } := by
  have ran : importText document host = _ := Action.ofExcept_bind_ok octets _ host
  simp only [read, shaped] at ran
  exact ran

end Import

/-! ## Runs -/

/-- The names of the tables that an event writes to. -/
def Event.WritesTo : Event → Key → Prop
  | .call _ operation, name => operation.WritesTo name
  | _, name => IsText name

theorem writes_importText (document : Value) (host : Host Backend) :
    (importText document host).2.backend.tables = host.backend.tables ∨
      ∃ named, (Fields.names named).Nodup ∧
        (importText document host).2.backend.tables = Tables.ofNamed named := by
  cases octets : documentChars document with
  | error fault =>
      have ran : importText document host = (.error fault, host) :=
        Action.ofExcept_bind_error octets _ host
      exact .inl (by rw [ran])
  | ok chars =>
      cases read : Json.decode chars with
      | error problem =>
          rcases importText_error host octets read with ⟨fault, ran, _⟩
          exact .inl (by rw [ran])
      | ok v =>
          cases shaped : tablesOf? v with
          | none => exact .inl (by rw [importText_misshapen host octets read shaped])
          | some tables =>
              rcases eq_ofNamed_of_tablesOf? shaped with ⟨named, rfl, rfl⟩
              refine .inr ⟨named, nodup_of_normal (Json.normalize_of_decode read), ?_⟩
              rw [importText_tables host octets read shaped]
              exact keeps_save _

/-- The tables after an event come from the tables before it, or from tables of a document, by writes
under the names of the event. -/
theorem writes_run {host : Host Backend} {stored : Fields Table} (holds : host.backend.Holds stored)
    (event : Event) :
    Writes event.WritesTo host.backend.tables (event.run host).2.backend.tables ∨
      ∃ named, (Fields.names named).Nodup ∧
        Writes event.WritesTo (Tables.ofNamed named) (event.run host).2.backend.tables := by
  cases event with
  | call moment operation => exact .inl (writes_perform operation host)
  | clear moment =>
      have idle : ((Event.clear moment).run host).2 = (clear moment host).2 :=
        Action.bind_idle (fun _ _ => rfl) host
      rw [idle]
      exact .inr ⟨[], .nil, writes_clear moment host⟩
  | exportText => exact .inl .refl
  | importText document =>
      have idle : ((Event.importText document).run host).2 = (importText document host).2 :=
        Action.bind_idle (fun _ _ => rfl) host
      rw [idle]
      rcases writes_importText document host with same | ⟨named, distinct, same⟩
      · exact .inl (by rw [same])
      · exact .inr ⟨named, distinct, by rw [same]⟩
  | restart moment =>
      rcases restart_cases moment holds with ⟨next, started, runs, _, _⟩ | failed
      · have loaded : Backend.tablesOfStored (Tables.said stored) = Tables.ofNamed stored :=
          Tables.ofSnapshot_said stored
        rcases read_of_start? started with ⟨v, read⟩
        rcases Store.Memory.copyOut_eq_ok_iff.1 ((read_of_snapshot? holds.said).symm.trans read) with
          ⟨_, rfl⟩
        have wrote := writes_start? read started
        rw [loaded] at wrote
        exact .inr ⟨stored, nodup_of_normal holds.normal, by rw [runs]; exact wrote⟩
      · exact .inl (by rw [failed])

/-- In every reachable state the tables have distinct names. -/
theorem Reachable.distinct {host : Host Backend} (reached : Reachable host) :
    host.backend.tables.Distinct := by
  have written (tables : Tables) (name : Key) (rows : Table) (distinct : tables.Distinct) :
      Fields.Distinct (Fields.set tables name rows) := Fields.distinct_set distinct
  -- induction on the run; a write keeps names distinct, whatever the name
  induction reached with
  | @start moment entries backend absent started =>
      have read : (Store.memory entries).read snapshotKey = .ok .null := by
        rw [Store.read, Store.Memory.read, absent]
        rfl
      exact (writes_start? read started).keeps (fun t n r _ => written t n r) .nil
  | step event before ih =>
      rcases before.holds with ⟨stored, holds⟩
      rcases writes_run holds event with wrote | ⟨named, distinct, wrote⟩
      · exact wrote.keeps (fun t n r _ => written t n r) ih
      · exact wrote.keeps (fun t n r _ => written t n r) (distinct_ofNamed_iff.2 distinct)

/-! ## Names that are texts -/

/-- Are all tables named by texts? -/
def Tables.AllNamed (tables : Tables) : Prop := ∀ name ∈ tables.names, IsText name

theorem allNamed_ofNamed (named : Fields Table) : (Tables.ofNamed named).AllNamed := by
  intro name member
  simp only [Tables.ofNamed, Fields.names, List.map_map, List.mem_map] at member
  rcases member with ⟨entry, _, rfl⟩
  exact ⟨entry.1, rfl⟩

theorem Tables.AllNamed.set {tables : Tables} {name : Key} {rows : Table}
    (named : tables.AllNamed) (text : IsText name) :
    Tables.AllNamed (Fields.set tables name rows) := by
  intro other member
  rcases Fields.mem_names_of_mem_set member with old | rfl
  · exact named other old
  · exact text

/-- Tables stay named by texts where every request names its table by a text. -/
theorem allNamed_run {host : Host Backend} (reached : Reachable host) {event : Event}
    (texts : ∀ name, event.WritesTo name → IsText name) (named : host.backend.tables.AllNamed) :
    (event.run host).2.backend.tables.AllNamed := by
  have written (tables : Tables) (name : Key) (rows : Table) (own : event.WritesTo name)
      (named : tables.AllNamed) : Tables.AllNamed (Fields.set tables name rows) :=
    named.set (texts name own)
  rcases reached.holds with ⟨stored, holds⟩
  rcases writes_run holds event with wrote | ⟨others, _, wrote⟩
  · exact wrote.keeps written named
  · exact wrote.keeps written (allNamed_ofNamed others)

theorem allNamed_start {entries : Store.Memory} {backend : Backend}
    (absent : Fields.get? entries snapshotKey = none)
    (started : Backend.start? moment (.memory entries) = .ok backend) :
    backend.tables.AllNamed := by
  have read : (Store.memory entries).read snapshotKey = .ok .null := by
    rw [Store.read, Store.Memory.read, absent]
    rfl
  refine (writes_start? read started).keeps (fun _ _ _ text named => named.set text) fun name none => ?_
  cases none

theorem allNamed_fresh (moment : Moment) : (fresh moment).backend.tables.AllNamed :=
  allNamed_start (rfl : Fields.get? [] snapshotKey = none) (start?_fresh moment).1

end Offline

end DataGateway
