import DataGateway.Gateway.Host
import DataGateway.Gateway.Operation
import DataGateway.Proofs.Gateway.Action
import DataGateway.Store

/-!
# Faults that spare the session

A session is ended by nothing but a denial. What can be wrong with arguments, rows, answers or a store
is no denial, so it leaves the session alone.

* `Spares result` — no fault of the result ends the session; `Action.Spares` is the same for a step;
* `spares_parse`, …, `spares_remove` — reading arguments, using values, and working on a store.
-/

namespace DataGateway

variable {σ τ α β γ : Type}

/-! ## Results -/

/-- Whatever goes wrong, the session may go on. -/
def Spares (result : Except Fault α) : Prop := ∀ fault, result = .error fault → fault.revokes = false

namespace Spares

theorem ok (a : α) : Spares (.ok a) := nofun

theorem error {fault : Fault} (spared : fault.revokes = false) :
    Spares (.error fault : Except Fault α) := by
  intro other same
  cases same
  exact spared

theorem bind {x : Except Fault α} {f : α → Except Fault β} (first : Spares x)
    (next : ∀ a, Spares (f a)) : Spares (x >>= f) := by
  cases x with
  | error fault => exact .error (first fault rfl)
  | ok a => exact next a

theorem map {x : Except Fault α} (g : α → β) (first : Spares x) : Spares (g <$> x) := by
  cases x with
  | error fault => exact .error (first fault rfl)
  | ok a => exact .ok (g a)

theorem ite {c : Prop} [Decidable c] {x y : Except Fault α} (yes : Spares x) (no : Spares y) :
    Spares (if c then x else y) := by
  split
  · exact yes
  · exact no

end Spares

/-! ## Steps -/

namespace Action

/-- Whatever goes wrong in the step, the session may go on. -/
def Spares (step : Action σ α) : Prop := ∀ s, DataGateway.Spares (step s).1

theorem Spares.pure (a : α) : Spares (Pure.pure a : Action σ α) := fun _ => .ok a

theorem Spares.ofExcept {result : Except Fault α} (h : DataGateway.Spares result) :
    Spares (Action.ofExcept result : Action σ α) := fun _ => h

theorem Spares.fail {fault : Fault} (spared : fault.revokes = false) :
    Spares (Action.fail fault : Action σ α) := fun _ => .error spared

theorem Spares.get : Spares (MonadState.get : Action σ σ) := fun s => .ok s

theorem Spares.modify (f : σ → σ) : Spares (modify f : Action σ PUnit) := fun _ => .ok _

theorem Spares.bind {x : Action σ α} {f : α → Action σ β} (first : Spares x)
    (next : ∀ a, Spares (f a)) : Spares (x >>= f) := by
  intro s
  have spared := first s
  rcases ran : x s with ⟨result, t⟩
  rw [ran] at spared
  cases result with
  | error fault =>
      rw [bind_of_error ran]
      exact .error (spared fault rfl)
  | ok a =>
      rw [bind_of_ok ran]
      exact next a t

theorem Spares.map {x : Action σ α} (g : α → β) (first : Spares x) : Spares (g <$> x) := by
  rw [map_eq_bind]
  exact first.bind fun a => .pure (g a)

theorem Spares.onPart {get : σ → τ} {set : σ → τ → σ} {step : Action τ α} (h : Spares step) :
    Spares (onPart get set step) := fun s => h (get s)

end Action

/-! ## Values -/

namespace Value

theorem spares_requirePrintable (v : Value) : Spares v.requirePrintable := .ite (.ok _) (.error rfl)

theorem spares_printed (v : Value) : Spares v.printed := .bind (spares_requirePrintable v) fun _ => .ok _

theorem spares_refuse (v : Value) (refusal : String → Refusal) :
    Spares (v.refuse refusal : Except Fault α) := .bind (spares_requirePrintable v) fun _ => .error rfl

theorem spares_elements (v : Value) : Spares v.elements := by
  intro fault failed
  cases v <;> cases failed <;> rfl

theorem spares_holds (v : Value) (name : String) : Spares (v.holds name) := by
  intro fault failed
  cases v <;> cases failed <;> rfl

theorem spares_fieldsFor (member : String) (v : Value) : Spares (v.fieldsFor member) := by
  intro fault failed
  cases v <;> cases failed <;> rfl

theorem spares_field (v : Value) (name : String) : Spares (v.field name) :=
  .bind (spares_fieldsFor _ v) fun _ => .ok _

theorem spares_spread (v : Value) : Spares v.spread := by
  intro fault failed
  cases v <;> cases failed <;> rfl

theorem spares_under (v : Value) (name : String) : Spares (v.under name) := by
  unfold under
  split
  · split
    · exact .ok _
    · exact .error rfl
  all_goals exact .error rfl

theorem spares_first (v : Value) : Spares v.first := by
  intro fault failed
  unfold first at failed
  split at failed <;> cases failed <;> rfl

theorem spares_ofValue (v : Value) : Spares (Key.ofValue v) := by
  intro fault failed
  unfold Key.ofValue at failed
  split at failed <;> cases failed
  rfl

theorem spares_asPairs (index : Nat) (pairs : List Value) : Spares (asPairs index pairs) := by
  induction pairs generalizing index with
  | nil => exact .ok _
  | cons pair pairs ih =>
      refine .bind ?_ fun _ => .bind (ih _) fun _ => .ok _
      unfold asPair
      split
      · exact .error rfl
      · exact .bind (spares_ofValue _) fun _ => .ok _
      · exact .error rfl

theorem spares_asRecord (v : Value) : Spares v.asRecord := by
  cases v with
  | object fields => exact .ok fields
  | _ => exact .bind (spares_elements _) fun _ => .bind (spares_asPairs 0 _) fun _ => .ok _

theorem spares_readWhole (chars : List Char) (literal : String) :
    Spares (readWhole chars literal) := by
  unfold readWhole
  split
  · exact .ok _
  · exact .error rfl
  · exact .error rfl

theorem spares_asWhole (v : Value) : Spares v.asWhole := by
  unfold asWhole
  split
  · exact .ok _
  · exact .ok _
  · exact .error rfl
  · exact .error rfl
  · exact .ok _
  · exact spares_readWhole _ _
  · exact spares_readWhole _ _
  · exact .error rfl

end Value

/-! ## Arguments -/

theorem Condition.spares_ofWire (column : String) (v : Value) :
    Spares (Condition.ofWire column v) := by
  unfold ofWire
  split
  · exact .ok _
  · exact .ok _
  · exact .ok _
  · unfold ofOperator
    refine .ite ?_ ?_
    · split
      · exact .ok _
      · exact .error rfl
    · split
      · exact .ok _
      · exact .error rfl
  · exact .error rfl
  · exact .ok _
  · exact .ok _

theorem Filters.spares_columnOf (key : Key) : Spares (columnOf key) := by
  unfold columnOf
  split
  · exact .ite (.error rfl) (.ok _)
  · exact Value.spares_refuse _ _

theorem Filters.spares_parseEntries (entries : List (Key × Filters.Entry)) :
    Spares (parseEntries entries) := by
  induction entries with
  | nil => exact .ok _
  | cons entry entries ih =>
      rcases entry with ⟨key, entry⟩
      have read (column : String) : Spares (entry.condition column) := by
        cases entry with
        | built condition => exact .ok condition
        | wire v => exact Condition.spares_ofWire column v
      unfold parseEntries
      exact .bind (spares_columnOf key) fun column => .bind (read column) fun _ =>
        .bind ih fun _ => .ok _

theorem Filters.spares_parse (filters : Filters) : Spares filters.parse := by
  unfold parse
  split
  · exact spares_parseEntries _
  · exact spares_parseEntries _
  · exact .ite (.error rfl) (.ok _)

theorem Selection.spares_namesOf (items : List Value) : Spares (namesOf items) := by
  induction items with
  | nil => exact .ok _
  | cons item items ih => exact .bind (Value.spares_printed item) fun _ => .bind ih fun _ => .ok _

theorem Selection.spares_ofValue (columns : Value) : Spares (Selection.ofValue columns) := by
  unfold ofValue
  split
  · exact .ok _
  · exact .ok _
  · exact .bind (Value.spares_elements _) fun _ => .bind (spares_namesOf _) fun _ => .ok _

theorem Query.spares_checkBound (least : Int) (refusal : String → Refusal) (v : Value) :
    Spares (checkBound least refusal v) := by
  unfold checkBound
  refine .ite (.ok _) ?_
  split
  · exact .ite (.ok _) (Value.spares_refuse _ _)
  · exact Value.spares_refuse _ _

theorem Query.Options.spares_check (options : Options) : Spares options.check :=
  .bind (spares_checkBound _ _ _) fun _ => .bind (spares_checkBound _ _ _) fun _ =>
    .bind (Filters.spares_parse _) fun _ => .ok _

theorem spares_recordsOf (rows : List Value) : Spares (recordsOf rows) := by
  induction rows with
  | nil => exact .ok _
  | cons row rows ih =>
      cases row with
      | object fields => exact .bind ih fun _ => .ok _
      | _ => exact .error rfl

theorem spares_rowsOf (data : Value) : Spares (rowsOf data) := by
  unfold rowsOf
  split
  · exact .ok _
  · exact spares_recordsOf _
  · exact spares_recordsOf _
  · exact .error rfl

theorem spares_batchOf (rows : Value) : Spares (batchOf rows) :=
  .ite (.error rfl) (spares_rowsOf rows)

theorem spares_firstOrNull (rows : Value) : Spares (firstOrNull rows) :=
  .ite (Value.spares_first rows) (.ok _)

/-! ## Documents -/

namespace Json

mutual

theorem spares_requireWritable (levels : Nat) (v : Value) : Spares (requireWritable levels v) := by
  cases v with
  | int n => exact Value.spares_requirePrintable _
  | list items =>
      cases levels with
      | zero => exact .error rfl
      | succ levels => exact spares_requireItems levels items
  | tuple items =>
      cases levels with
      | zero => exact .error rfl
      | succ levels => exact spares_requireItems levels items
  | object fields =>
      cases levels with
      | zero => exact .error rfl
      | succ levels => exact spares_requireFields levels fields
  | entity kind mark fields => exact Value.spares_requirePrintable _
  | _ => exact .ok _

theorem spares_requireItems (levels : Nat) (items : List Value) :
    Spares (requireItems levels items) := by
  cases items with
  | nil => exact .ok _
  | cons item items =>
      exact .bind (spares_requireWritable levels item) fun _ => spares_requireItems levels items

theorem spares_requireFields (levels : Nat) (fields : List (String × Value)) :
    Spares (requireFields levels fields) := by
  cases fields with
  | nil => exact .ok _
  | cons field fields =>
      exact .bind (spares_requireWritable levels field.2) fun _ => spares_requireFields levels fields

end

end Json

/-! ## Stores -/

namespace Store

variable (store : Store) (key : String)

theorem Directory.spares_resolve (directory : Directory) (key : String) :
    Spares (directory.resolve key) := by
  unfold resolve
  refine .ite (.error rfl) ?_
  exact .ite (.error rfl) (.ite (.error rfl) (.ite (.error rfl) (.ok _)))

theorem Directory.spares_parse (bytes : List UInt8) : Spares (Directory.parse bytes) := by
  unfold Directory.parse
  split
  · exact .error rfl
  · split
    · exact .ok _
    · split
      · exact .error rfl
      · exact .error rfl
      · exact .ok _

theorem spares_read : Spares (store.read key) := by
  cases store with
  | memory entries => exact .ite (.ok _) (.error rfl)
  | directory entries =>
      refine .bind (Directory.spares_resolve entries key) fun name => ?_
      split
      · exact Directory.spares_parse _
      · exact .error rfl
      · exact .error rfl
      · exact .ok _

theorem spares_write (v : Value) : Spares (store.write key v) := by
  have dumped : Spares (Json.requireWritable Json.levelLimit v) := Json.spares_requireWritable _ v
  cases store with
  | memory entries => exact .map _ (.bind (.bind dumped fun _ => .ok _) fun _ => .ok _)
  | directory entries =>
      refine .map _ (.bind (Directory.spares_resolve entries key) fun name => ?_)
      refine .bind (.bind dumped fun _ => .ok _) fun _ => ?_
      exact .ite (.error rfl) (.ite (.error rfl) (.ok _))

theorem spares_remove : Spares (store.remove key) := by
  cases store with
  | memory entries => exact .ok _
  | directory entries =>
      refine .bind (.bind (Directory.spares_resolve entries key) fun name => ?_) fun _ => .ok _
      split
      · exact .ite (.error rfl) (.ok _)
      · exact .ite (.error rfl) (.ok _)
      · exact .error rfl
      · exact .ok _

end Store

end DataGateway
