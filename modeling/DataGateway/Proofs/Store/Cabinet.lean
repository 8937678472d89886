import DataGateway.Proofs.Store.Disk
import DataGateway.Proofs.Value.Key
import DataGateway.Store.Cabinet

/-!
# Cabinets as stores

Under keys that are texts a cabinet is the store that it was made from: in memory since the texts stay
apart as keys of any kind, and in a directory since the calls do, step by step, what reading, writing and
removing say.

* `Fields.get?_mapNames`, `set_mapNames`, `erase_mapNames` — fields under other names;
* `read_ofStore`, `write_ofStore`, `remove_ofStore` — the calls.
-/

namespace DataGateway

namespace Fields

variable {α κ μ : Type} [BEq κ] [BEq μ]

/-- The fields under other names. -/
def mapNames (f : κ → μ) (fields : Fields α κ) : Fields α μ := fields.map fun (n, v) => (f n, v)

variable {f : κ → μ} (same : ∀ m n, (f m == f n) = (m == n))

include same

theorem get?_mapNames (fields : Fields α κ) (k : κ) : get? (mapNames f fields) (f k) = get? fields k := by
  induction fields with
  | nil => rfl
  | cons entry fields ih =>
      rcases entry with ⟨n, v⟩
      simp only [mapNames, List.map_cons, get?_cons, same] at ih ⊢
      rw [ih]

theorem set_mapNames (fields : Fields α κ) (k : κ) (v : α) :
    set (mapNames f fields) (f k) v = mapNames f (set fields k v) := by
  induction fields with
  | nil => rfl
  | cons entry fields ih =>
      rcases entry with ⟨n, u⟩
      simp only [mapNames, List.map_cons, set, same] at ih ⊢
      split
      · rfl
      · rw [ih, List.map_cons]

theorem erase_mapNames (fields : Fields α κ) (k : κ) :
    erase (mapNames f fields) (f k) = mapNames f (erase fields k) := by
  simp only [erase, mapNames, List.filter_map, Function.comp_def, bne, same]

end Fields

namespace Store.Cabinet

variable {store : Store} {key : String}

theorem textOf_text (key : String) : textOf (.text key) = .ok key := rfl

theorem read_ofStore (store : Store) (key : String) :
    (ofStore store).read (.text key) = store.read key := by
  cases store with
  | memory entries =>
      have found := Fields.get?_mapNames Key.ofText_beq entries key
      exact congrArg (fun entry => Memory.copyOut (Option.getD entry .null)) found
  | directory entries =>
      simp only [ofStore, read, textOf_text, ok_bind, Disk.run_fetch, Store.read]
      cases entries.read key <;> rfl

theorem remove_ofStore (store : Store) (key : String) :
    (ofStore store).remove (.text key) =
      (fun (removed, after) => (removed, ofStore after)) <$> store.remove key := by
  cases store with
  | memory entries =>
      have found := Fields.get?_mapNames Key.ofText_beq entries key
      have erased := Fields.erase_mapNames Key.ofText_beq entries key
      exact congrArg₂ (fun entry entries => Except.ok (Option.isSome entry, memory entries)) found erased
  | directory entries =>
      simp only [ofStore, remove, textOf_text, ok_bind, Disk.run_discard, Store.remove]
      cases entries.remove key <;> rfl

/-- Is there sure to be a free name for a temporary file? -/
def HasRoom : Store → Prop
  | .memory _ => True
  | .directory files => files.entries.length < Disk.alphabet.length

theorem write_ofStore {v : Value} (room : HasRoom store) :
    (ofStore store).write (.text key) v = ofStore <$> store.write key v := by
  cases store with
  | memory entries =>
      rw [Store.write, Memory.write, ofStore, write]
      cases Json.copy v with
      | error fault => rfl
      | ok copy =>
          have written := Fields.set_mapNames Key.ofText_beq entries key copy
          exact congrArg (fun entries => Except.ok (memory entries)) written
  | directory entries =>
      simp only [ofStore, write, textOf_text, ok_bind, Disk.run_store room, Store.write]
      cases entries.write key v <;> rfl

end Store.Cabinet

end DataGateway
