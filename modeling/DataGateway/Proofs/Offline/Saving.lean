import DataGateway.Proofs.Offline.Commit
import DataGateway.Proofs.Offline.Sparing

/-!
# Operations that end by saving

What becomes of an operation whose last step writes the snapshot. It has changed the tables by then, and
whether it succeeds is up to the tables alone: in memory they are saved when they have a document.

* `Tables.savable_iff` — which tables have a document;
* `Backend.saved` — a backend with its snapshot written, if it can be;
* `Backend.saved_over` — of two snapshots only the later one is left;
* `perform_of_saved`, `perform_of_unsaved` — what is answered, and what is left behind.
-/

namespace DataGateway.Offline

/-! ## Documents of tables -/

/-- Tables have a document when it has names for them and their rows can be written. -/
theorem Tables.savable_iff {tables : Tables} : tables.Savable ↔
    (∀ name ∈ tables.names, ∃ text, Json.nameOf name = .ok text) ∧
      ∀ entry ∈ tables, ∀ row ∈ entry.2, Json.requireWritable (Json.levelLimit - 2) row = .ok () := by
  have each : (∃ fields, Json.objectOf (Fields.mapValues Value.list tables) = .ok fields) ↔
      ∀ entry ∈ tables, (∃ text, Json.nameOf entry.1 = .ok text) ∧
        ∀ row ∈ entry.2, Json.requireWritable (Json.levelLimit - 2) row = .ok () := by
    induction tables with
    | nil => exact ⟨fun _ => nofun, fun _ => ⟨[], rfl⟩⟩
    | cons entry tables ih =>
        rw [List.forall_mem_cons, ← ih]
        constructor
        · rintro ⟨fields, written⟩
          rcases bind_eq_ok_iff.1 written with ⟨text, named, written⟩
          rcases check_eq_ok_iff.1 written with ⟨rows, written⟩
          rcases bind_eq_ok_iff.1 written with ⟨others, rest, _⟩
          exact ⟨⟨⟨text, named⟩, Json.requireItems_iff.1 rows⟩, others, rest⟩
        · rintro ⟨⟨⟨text, named⟩, rows⟩, others, rest⟩
          refine ⟨(text, .list entry.2) :: others, bind_eq_ok_iff.2 ⟨text, named, ?_⟩⟩
          refine check_eq_ok_iff.2 ⟨Json.requireItems_iff.2 rows, ?_⟩
          exact bind_eq_ok_iff.2 ⟨others, rest, rfl⟩
  have said : tables.Savable ↔ ∃ fields, Json.objectOf (Fields.mapValues Value.list tables) = .ok fields := by
    constructor
    · rintro ⟨_, said⟩
      exact (map_eq_ok_iff.1 said).imp fun _ both => both.1
    · rintro ⟨fields, written⟩
      exact ⟨.object fields, map_eq_ok_iff.2 ⟨fields, written, rfl⟩⟩
  rw [said, each, forall₂_and, Fields.names, List.forall_mem_map]

/-- Tables under the same names with rows from before can be saved as before. -/
theorem Tables.Savable.set {tables : Tables} {name : Key} {rows others : Table} (savable : tables.Savable)
    (found : Fields.get? tables name = some rows) (fewer : ∀ row ∈ others, row ∈ rows) :
    Tables.Savable (Fields.set tables name others) := by
  rcases Tables.savable_iff.1 savable with ⟨names, writable⟩
  refine Tables.savable_iff.2 ⟨?_, fun entry member row there => ?_⟩
  · have same : Fields.names (Fields.set tables name others) = tables.names :=
      Fields.names_set_of_get? found
    rwa [same]
  · rcases Fields.value_of_mem_set member with old | new
    · exact writable entry old row there
    · rw [new] at there
      exact Tables.writable_row savable found (fewer row there)

/-- A number without a numeral keeps the tables from being saved. -/
theorem Tables.not_savable_of_unprintable {tables : Tables} {name : Key} {rows : Table} {record : Record}
    {column : String} {v : Value} (found : Fields.get? tables name = some rows)
    (member : .object record ∈ rows) (there : Fields.get? record column = some v)
    (unprintable : v.isPrintable = false) : ¬tables.Savable := by
  intro savable
  have printable := Json.isPrintable_of_requireWritable (Tables.writable_row savable found member)
  rw [Value.isPrintable_of_mem printable (Fields.mem_of_get? there)] at unprintable
  cases unprintable

/-! ## Saving -/

/-- A backend with its snapshot written, if it can be. -/
def Backend.saved (backend : Backend) : Backend := (Backend.save backend).2

section Saving

variable {backend other : Backend}

theorem Backend.isSaved_saved (memory : backend.InMemory) (savable : backend.tables.Savable) :
    backend.saved.IsSaved := by
  rcases memory with ⟨entries, memory⟩
  rcases savable with ⟨snapshot, said⟩
  have ran := save_memory memory said
  rw [saved, ran]
  exact (save_ok ⟨entries, memory⟩ ran).2

theorem Backend.save_of_not_savable (unsavable : ¬backend.tables.Savable) :
    ∃ fault, Backend.save backend = (.error fault, backend) := by
  cases said : Tables.snapshot backend.tables with
  | ok snapshot => exact absurd ⟨snapshot, said⟩ unsavable
  | error fault => exact ⟨fault, Action.ofExcept_bind_error said _ backend⟩

theorem Backend.saved_of_not_savable (unsavable : ¬backend.tables.Savable) :
    backend.saved = backend := by
  rcases Backend.save_of_not_savable unsavable with ⟨fault, failed⟩
  rw [Backend.saved, failed]

/-- Saving writes to the store and to nothing else. -/
theorem Backend.saved_eq (memory : backend.InMemory) :
    ∃ entries, backend.saved = { backend with store := .memory entries } := by
  rcases memory with ⟨entries, memory⟩
  by_cases savable : backend.tables.Savable
  · rcases savable with ⟨snapshot, said⟩
    exact ⟨_, congrArg Prod.snd (save_memory memory said)⟩
  · rw [saved_of_not_savable savable]
    exact ⟨entries, by rw [← memory]⟩

theorem Backend.saved_tables (memory : backend.InMemory) : backend.saved.tables = backend.tables := by
  rcases Backend.saved_eq memory with ⟨entries, wrote⟩
  rw [wrote]

theorem Backend.saved_lastId (memory : backend.InMemory) : backend.saved.lastId = backend.lastId := by
  rcases Backend.saved_eq memory with ⟨entries, wrote⟩
  rw [wrote]

theorem Backend.InMemory.saved (memory : backend.InMemory) : backend.saved.InMemory := by
  rcases Backend.saved_eq memory with ⟨entries, wrote⟩
  exact ⟨entries, by rw [wrote]⟩

/-- Of two snapshots only the later one is left. -/
theorem Backend.saved_over (memory : backend.InMemory) (savable : other.tables.Savable) :
    { other with store := backend.saved.store }.saved = { other with store := backend.store }.saved := by
  by_cases before : backend.tables.Savable
  · rcases memory with ⟨entries, memory⟩
    rcases before with ⟨first, saidFirst⟩
    rcases savable with ⟨second, said⟩
    have stored : backend.saved.store =
        .memory (Fields.set entries snapshotKey (Json.normalize first)) := by
      rw [saved, save_memory memory saidFirst]
    -- both are snapshots of the same tables, and the store keeps one value under a key
    have twice := @save_memory { other with store := backend.saved.store } _ _ stored said
    have once := @save_memory { other with store := backend.store } _ _ memory said
    refine (congrArg Prod.snd twice).trans (Eq.trans ?_ (congrArg Prod.snd once).symm)
    simp only [Fields.set_set]
  · rw [saved_of_not_savable before]

end Saving

section Responses

variable {operation : Operation} {moment : Moment} {answer : Value} {host next : Host Backend}
  (ran : body moment operation host = (save >>= fun _ => pure answer : Work Value) next)

include ran

/-- An operation that ends by saving succeeds when the tables have a document. -/
theorem perform_of_saved (memory : next.backend.InMemory) (savable : next.backend.tables.Savable) :
    perform moment operation host =
      (.ok (.success answer), { next with backend := next.backend.saved }) := by
  rcases memory with ⟨entries, memory⟩
  rcases savable with ⟨snapshot, said⟩
  have saved : save next = (.ok (), { next with backend := next.backend.saved }) := by
    rw [save, Host.onBackend_apply, Backend.saved, save_memory memory said]
  exact perform_of_ok (ran.trans (Action.bind_of_ok saved))

/-- Otherwise it fails, and has changed what it changed. -/
theorem perform_of_unsaved (unsavable : ¬next.backend.tables.Savable) :
    ∃ text journal, perform moment operation host = (.ok (.failure text), { next with journal }) := by
  rcases Backend.save_of_not_savable unsavable with ⟨fault, wrote⟩
  have failed : save next = (.error fault, next) := by
    rw [save, Host.onBackend_apply, wrote]
  exact perform_of_error (ran.trans (Action.bind_of_error failed))

end Responses

end DataGateway.Offline
