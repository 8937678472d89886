import DataGateway.Proofs.Fields
import DataGateway.Proofs.Sql.Numbering
import DataGateway.Proofs.Sql.PlainName
import Mathlib.Data.List.Perm.Subperm

/-!
# Names in statements

Every name that enters a statement was checked first, in whatever position it stands: it is a plain
name, possibly with a line feed after it, or the request is refused.

* `Stops`, `Screens`, `Vets` — a step that checks names, closed under what comes after it;
* `Builder.Request.names`, `Statement.names` — the names that a request brings, and those that a
  statement is made of;
* `Builder.build_names` — the names of a request pass, or the request is refused;
* `Builder.build_lineFeed` — a name that is not plain enters a statement.
-/

namespace DataGateway.Sql

open Text

/-! ## Names of parts of requests -/

/-- The names of the columns that a specification has conditions on. -/
def columnNames (spec : Spec) : List Value := spec.map fun entry => .text entry.1

/-- The names in rows. -/
def recordNames (rows : List Record) : List Value := rows.flatMap fun row => row.names.map .text

/-- The names in a mapping. -/
def fieldNames : Value → List Value
  | .object fields => (Fields.names fields).map .text
  | _ => []

/-- The names of a selection, as they are after trimming. -/
def selectedNames (columns : Value) : List Value :=
  match Selection.ofValue columns with
  | .ok (.columns names) => names.map .text
  | _ => []

/-! ## Checking names -/

section Screens

variable {α β : Type} {names more : List Value}

/-- The step is refused; or a name that is no text has no text either, with which it could be. -/
inductive Stops (names : List Value) : Except Fault α → Prop
  | refused (refusal : Refusal) : Stops names (.error (.refused refusal))
  | unprintable {v : Value} : v ∈ names → v.isPrintable = false →
      Stops names (.error (.misuse .wholeUnwritable))

theorem Stops.mono {x : Except Fault α} (h : Stops names x) (within : names ⊆ more) :
    Stops more x := by
  cases h with
  | refused refusal => exact .refused refusal
  | unprintable member unprintable => exact .unprintable (within member) unprintable

theorem Stops.bind {x : Except Fault α} (h : Stops names x) (f : α → Except Fault β) :
    Stops names (x >>= f) := by
  cases h with
  | refused refusal => exact .refused refusal
  | unprintable member unprintable => exact .unprintable member unprintable

/-- The step stops at the names, or it ends well and all of them pass. -/
def Screens (names : List Value) (x : Except Fault α) : Prop :=
  Stops names x ∨ (∃ a, x = .ok a) ∧ ∀ v ∈ names, Passes v

/-- The step stops at the names, or all of them pass, however it ends. -/
def Vets (names : List Value) (x : Except Fault α) : Prop := Stops names x ∨ ∀ v ∈ names, Passes v

theorem Screens.pure (a : α) : Screens [] (.ok a : Except Fault α) :=
  .inr ⟨⟨a, rfl⟩, fun _ none => absurd none List.not_mem_nil⟩

theorem Screens.refused (refusal : Refusal) :
    Screens names (.error (.refused refusal) : Except Fault α) := .inl (.refused refusal)

theorem Screens.mono {x : Except Fault α} (h : Screens names x) (within : names ⊆ more)
    (fewer : (∀ v ∈ names, Passes v) → ∀ v ∈ more, Passes v) : Screens more x :=
  h.imp (fun stops => stops.mono within) fun ⟨ends, pass⟩ => ⟨ends, fewer pass⟩

theorem Screens.bind {x : Except Fault α} {f : α → Except Fault β} (first : Screens names x)
    (next : ∀ a, Screens more (f a)) : Screens (names ++ more) (x >>= f) := by
  rcases first with stops | ⟨⟨a, rfl⟩, pass⟩
  · exact .inl ((stops.bind f).mono (List.subset_append_left ..))
  · rcases next a with stops | ⟨ends, others⟩
    · exact .inl (stops.mono (List.subset_append_right ..))
    · exact .inr ⟨ends, List.forall_mem_append.2 ⟨pass, others⟩⟩

theorem Screens.map {x : Except Fault α} {f : α → β} (h : Screens names x) :
    Screens names (f <$> x) := by
  rcases h with stops | ⟨⟨a, rfl⟩, pass⟩
  · exact .inl (stops.bind (Except.ok ∘ f))
  · exact .inr ⟨⟨f a, rfl⟩, pass⟩

theorem Screens.vets {x : Except Fault α} {f : α → Except Fault β} (first : Screens names x)
    (next : ∀ a, Vets more (f a)) : Vets (names ++ more) (x >>= f) := by
  rcases first with stops | ⟨⟨a, rfl⟩, pass⟩
  · exact .inl ((stops.bind f).mono (List.subset_append_left ..))
  · exact (next a).imp (fun stops => stops.mono (List.subset_append_right ..)) fun others =>
      List.forall_mem_append.2 ⟨pass, others⟩

/-- After the last check no name is left. -/
theorem Screens.last {x : Except Fault α} {f : α → Except Fault β} (h : Screens names x) :
    Vets names (x >>= f) := h.imp (fun stops => stops.bind f) And.right

/-- A check that comes first and refuses as well. -/
theorem Vets.guard {x : Except Fault α} {c : Prop} [Decidable c] {refusal : Refusal}
    (rest : Vets names x) :
    Vets names (do
      if c then throw (.refused refusal)
      x) := by
  by_cases stopped : c
  · rw [if_pos stopped]
    exact .inl (.refused refusal)
  · rw [if_neg stopped]
    exact rest

theorem screens_ofValue (v : Value) : Screens [v] (Identifier.ofValue v) := by
  cases found : Identifier.ofValue v with
  | ok name =>
      refine .inr ⟨⟨name, rfl⟩, ?_⟩
      intro w member
      rw [List.mem_singleton.1 member, Identifier.ofValue_eq_ok found]
      exact name.passes
  | error fault =>
      cases v with
      | text s =>
          simp only [Identifier.ofValue] at found
          split at found
          · cases found
          · cases found
            exact .refused _
      | _ =>
          -- a value that is no text is refused, if there is a text to refuse it with
          rw [← Except.error.inj ((Value.refuse_eq _ _).symm.trans found)]
          split
          · exact .refused _
          · rename_i unprintable
            exact .inl (.unprintable (List.mem_singleton_self _) (Bool.eq_false_iff.2 unprintable))

theorem screens_identifiers (vs : List Value) : Screens vs (identifiers vs) := by
  induction vs with
  | nil => exact .pure []
  | cons v vs ih =>
      exact (screens_ofValue v).bind fun name => ih.map

theorem screens_comparisonOf? {condition : Condition} (concrete : condition.IsConcrete) :
    Screens [] (comparisonOf? condition) := by
  cases condition with
  | unspecified => exact absurd concrete id
  | _ => exact .pure _

theorem screens_clausesOf {spec : Spec} (concrete : spec.IsConcrete) (start : Int) :
    Screens (columnNames spec) (clausesOf start spec) := by
  -- induction on the specification; a condition that can be tested stops nothing
  induction spec generalizing start with
  | nil => exact .pure _
  | cons entry spec ih =>
      rcases entry with ⟨column, condition⟩
      have rest := ih fun e he => concrete e (List.mem_cons_of_mem _ he)
      apply (screens_ofValue (.text column)).bind
      intro name
      apply (screens_comparisonOf? (concrete _ (List.mem_cons_self ..))).bind
      intro comparison?
      cases comparison? with
      | none => exact (rest start).map
      | some found => exact (rest (start + 1)).map

theorem screens_selectionOf {columns : Value} {selection : Selection}
    (readable : Selection.ofValue columns = .ok selection) :
    Screens (selectedNames columns) (selectionOf columns) := by
  unfold selectedNames selectionOf
  rw [readable]
  cases selection with
  | all => exact .pure _
  | columns names => exact (screens_identifiers (names.map .text)).map

theorem screens_orderOf (order : Option (Value × Value)) :
    Screens (order.map Prod.fst).toList (orderOf order) := by
  cases order with
  | none => exact .pure _
  | some wish => exact (screens_ofValue wish.1).map

/-- Rows with the columns of another row have no other names. -/
theorem names_of_sameColumns {first row : Record} (distinct : first.names.Nodup)
    (same : sameColumns first row = true) : ∀ name ∈ row.names, name ∈ first.names := by
  have both : first.length = row.length ∧ ∀ name ∈ first.names, Fields.has row name = true := by
    simpa [sameColumns] using same
  have within : first.names ⊆ row.names := by
    intro name member
    have there := both.2 name member
    rw [Fields.has_eq_any_names] at there
    simpa using there
  have many : row.names.length ≤ first.names.length := by simp [Fields.names, both.1]
  have perm : first.names.Perm row.names :=
    (List.Nodup.subperm distinct within).perm_of_length_le many
  intro name member
  exact perm.mem_iff.2 member

theorem screens_rowColumns {rows : List Record} (distinct : ∀ row ∈ rows, row.names.Nodup) :
    Screens (recordNames rows) (rowColumns rows) := by
  cases rows with
  | nil => exact .refused _
  | cons first rest =>
      simp only [rowColumns]
      split
      · exact .refused _
      split
      · rename_i same
        -- only the names of the first row are looked at, and no other row has more
        have within : first.names.map Value.text ⊆ recordNames (first :: rest) :=
          List.subset_append_left ..
        apply (screens_identifiers (first.names.map .text)).mono within
        intro pass v member
        rcases List.mem_flatMap.1 member with ⟨row, there, named⟩
        rcases List.mem_map.1 named with ⟨name, own, rfl⟩
        apply pass
        apply List.mem_map_of_mem
        rcases List.mem_cons.1 there with rfl | later
        · exact own
        · exact names_of_sameColumns (distinct first (List.mem_cons_self ..))
            (List.all_eq_true.1 same row later) name own
      · exact .refused _

end Screens

/-! ## Names of requests -/

namespace Builder

/-- The names that a request brings, in the order in which they are checked. -/
def Request.names : Request → List Value
  | .select table columns spec order _ _ =>
    columnNames spec ++ (selectedNames columns ++ table :: (order.map Prod.fst).toList)
  | .insert table rows | .upsert table rows => recordNames rows ++ [table]
  | .update table spec patch => fieldNames patch ++ (columnNames spec ++ [table])
  | .delete table spec | .count table spec => columnNames spec ++ [table]
  | .rpc name params => fieldNames params ++ [name]

/-- The names that a request selects. -/
def Request.selected : Request → List Value
  | .select _ columns _ _ _ _ => selectedNames columns
  | _ => []

/-- A selection that can be read, conditions that can be tested, rows with distinct names, and
mappings for a patch and for parameters. -/
def Request.IsTyped : Request → Prop
  | .select _ columns spec _ _ _ =>
    (∃ selection, Selection.ofValue columns = .ok selection) ∧ spec.IsConcrete
  | .insert _ rows | .upsert _ rows => ∀ row ∈ rows, row.names.Nodup
  | .update _ spec patch => spec.IsConcrete ∧ ∃ fields, patch = .object fields
  | .delete _ spec | .count _ spec => spec.IsConcrete
  | .rpc _ params => ∃ fields, params = .object fields

/-- Makes a builder with a conflict column, and the statement for a request. -/
def build (conflictColumn : Value) (request : Request) : Except Fault Prepared := do
  let column ← Identifier.ofValue conflictColumn
  prepare ⟨column⟩ request

theorem vets_select {table columns limit offset : Value} {spec : Spec} {order : Option (Value × Value)}
    {selection : Selection} (readable : Selection.ofValue columns = .ok selection)
    (concrete : spec.IsConcrete) :
    Vets (Request.names (.select table columns spec order limit offset))
      (select table columns spec order limit offset) := by
  apply (screens_clausesOf concrete 1).vets
  rintro ⟨clauses, arguments⟩
  apply (screens_selectionOf readable).vets
  intro names
  apply (screens_ofValue table).vets
  intro table
  -- the bounds come last and bring no names
  exact (screens_orderOf order).last

theorem vets_write {conflict : List Identifier → Option Conflict} {table : Value} {rows : List Record}
    (distinct : ∀ row ∈ rows, row.names.Nodup) :
    Vets (recordNames rows ++ [table]) (write conflict table rows) := by
  apply (screens_rowColumns distinct).vets
  intro columns
  exact (screens_ofValue table).last

theorem vets_update {table : Value} {spec : Spec} {fields : Record} (concrete : spec.IsConcrete) :
    Vets (Request.names (.update table spec (.object fields)))
      (update table spec (.object fields)) := by
  apply Vets.guard
  apply Vets.guard
  rw [elements_object]
  apply (screens_identifiers (fields.names.map .text)).vets
  intro columns
  apply (screens_clausesOf concrete _).vets
  rintro ⟨clauses, arguments⟩
  exact (screens_ofValue table).last

theorem vets_delete {table : Value} {spec : Spec} (concrete : spec.IsConcrete) :
    Vets (Request.names (.delete table spec)) (delete table spec) := by
  apply Vets.guard
  apply (screens_clausesOf concrete 1).vets
  rintro ⟨clauses, arguments⟩
  exact (screens_ofValue table).last

theorem vets_count {table : Value} {spec : Spec} (concrete : spec.IsConcrete) :
    Vets (Request.names (.count table spec)) (count table spec) := by
  apply (screens_clausesOf concrete 1).vets
  rintro ⟨clauses, arguments⟩
  exact (screens_ofValue table).last

theorem vets_rpc {name : Value} {fields : Record} :
    Vets (Request.names (.rpc name (.object fields))) (rpc name (.object fields)) := by
  unfold rpc
  rw [elements_object]
  apply (screens_identifiers (fields.names.map .text)).vets
  intro names
  exact (screens_ofValue name).last

theorem vets_prepare (builder : Builder) {request : Request} (typed : request.IsTyped) :
    Vets request.names (builder.prepare request) := by
  cases request with
  | select table columns spec order limit offset =>
      rcases typed with ⟨⟨selection, readable⟩, concrete⟩
      exact vets_select readable concrete
  | insert table rows => exact vets_write typed
  | upsert table rows => exact vets_write typed
  | update table spec patch =>
      rcases typed with ⟨concrete, fields, rfl⟩
      exact vets_update concrete
  | delete table spec => exact vets_delete typed
  | count table spec => exact vets_count typed
  | rpc name params =>
      rcases typed with ⟨fields, rfl⟩
      exact vets_rpc

end Builder

/-! ## Names of statements -/

def Clause.column : Clause → Identifier
  | .isNull column => column
  | .compared column _ _ => column

/-- The names that the text of a statement is made of. -/
def Statement.names : Statement → List Identifier
  | .select columns table clauses order _ _ =>
    columns.getD [] ++ table :: clauses.map Clause.column ++ (order.map Prod.fst).toList
  | .insert table columns _ conflict =>
    table :: columns ++ conflict.toList.flatMap fun conflict => conflict.target :: conflict.overwrite
  | .update table assignments clauses =>
    table :: assignments.map Prod.fst ++ clauses.map Clause.column
  | .delete table clauses | .count table clauses => table :: clauses.map Clause.column
  | .call function params => function :: params.map Prod.fst

theorem identifiers_eq_ok {vs : List Value} {found : List Identifier}
    (h : identifiers vs = .ok found) : found.map Identifier.value = vs := by
  induction vs generalizing found with
  | nil =>
      cases h
      rfl
  | cons v vs ih =>
      rcases bind_eq_ok_iff.1 h with ⟨name, first, h⟩
      rcases bind_eq_ok_iff.1 h with ⟨others, rest, h⟩
      cases h
      rw [List.map_cons, ih rest, Identifier.ofValue_eq_ok first]

theorem texts_of_values {columns : List Identifier} {names : List String}
    (same : columns.map Identifier.value = names.map Value.text) : columns.map Identifier.text = names := by
  have texts : (columns.map Identifier.text).map Value.text = names.map Value.text := by
    rw [List.map_map]
    exact same
  exact List.map_injective_iff.2 (fun _ _ => Value.text.inj) texts

theorem Lowered.columns {start : Int} {spec : Spec} {clauses : List Clause}
    {arguments : List Argument} (h : Lowered start spec clauses arguments) :
    (clauses.map Clause.column).map Identifier.value = columnNames spec := by
  induction h with
  | nil start => rfl
  | isNull column _ ih | compared column _ _ ih => exact congrArg (column.value :: ·) ih

theorem selectionOf_eq_ok {columns : Value} {found : Option (List Identifier)}
    (h : selectionOf columns = .ok found) :
    (found.getD []).map Identifier.value = selectedNames columns := by
  rcases bind_eq_ok_iff.1 h with ⟨selection, readable, h⟩
  unfold selectedNames
  rw [readable]
  cases selection with
  | all =>
      cases h
      rfl
  | columns names =>
      rcases map_eq_ok_iff.1 h with ⟨ids, named, rfl⟩
      exact identifiers_eq_ok named

theorem orderOf_eq_ok {order : Option (Value × Value)} {found : Option (Identifier × Bool)}
    (h : orderOf order = .ok found) :
    ((found.map Prod.fst).toList).map Identifier.value = (order.map Prod.fst).toList := by
  cases order with
  | none =>
      cases h
      rfl
  | some wish =>
      rcases bind_eq_ok_iff.1 h with ⟨name, named, h⟩
      cases h
      exact congrArg (fun v => [v]) (Identifier.ofValue_eq_ok named).symm

/-- The columns of rows are names of the first of them. -/
theorem rowColumns_eq_ok {rows : List Record} {columns : List Identifier}
    (h : rowColumns rows = .ok columns) : columns.map Identifier.value ⊆ recordNames rows := by
  cases rows with
  | nil => cases h
  | cons first rest =>
      simp only [rowColumns] at h
      split at h
      · cases h
      split at h
      · rw [identifiers_eq_ok h]
        exact List.subset_append_left _ _
      · cases h

theorem numbered_fst (start : Nat) (names : List Identifier) :
    (numbered start names).map Prod.fst = names :=
  List.zipIdx_map_fst start names

/-- The names of a patch or of parameters are those of its fields. -/
theorem map_value_fields {v : Value} {names : List Value} {found : List Identifier}
    {fields : Record} {member : String} (goes : v.elements = .ok names)
    (named : identifiers names = .ok found) (has : v.fieldsFor member = .ok fields) :
    found.map Identifier.value = fieldNames v := by
  rw [identifiers_eq_ok named]
  cases v with
  | object own =>
      rw [Builder.elements_object] at goes
      exact (Except.ok.inj goes).symm
  | _ => cases has

namespace Builder

variable {prepared : Prepared} {conflictColumn : Identifier}

theorem names_select {table columns limit offset : Value} {spec : Spec}
    {order : Option (Value × Value)}
    (h : select table columns spec order limit offset = .ok prepared) :
    prepared.statement.names.map Identifier.value ⊆
      Request.names (.select table columns spec order limit offset) := by
  rcases bind_eq_ok_iff.1 h with ⟨⟨clauses, arguments⟩, lowers, h⟩
  rcases bind_eq_ok_iff.1 h with ⟨found, selects, h⟩
  rcases bind_eq_ok_iff.1 h with ⟨name, named, h⟩
  rcases bind_eq_ok_iff.1 h with ⟨wish, orders, h⟩
  rcases bind_eq_ok_iff.1 h with ⟨limit, _, h⟩
  rcases bind_eq_ok_iff.1 h with ⟨offset, _, h⟩
  cases h
  have parts : (found.getD [] ++ name :: clauses.map Clause.column ++
      (wish.map Prod.fst).toList).map Identifier.value =
        selectedNames columns ++ table :: columnNames spec ++ (order.map Prod.fst).toList := by
    simp only [List.map_append, List.map_cons, selectionOf_eq_ok selects, orderOf_eq_ok orders,
      (lowered_of_clausesOf lowers).columns, Identifier.ofValue_eq_ok named]
  intro v member
  rw [Statement.names, parts] at member
  simp only [Request.names, List.mem_append, List.mem_cons] at member ⊢
  tauto

/-- A rule for conflicts brings its target, and columns of the rows. -/
theorem names_write {conflict : List Identifier → Option Conflict} {table : Value} {rows : List Record}
    (ruled : ∀ columns, ∀ rule ∈ conflict columns,
      rule.target = conflictColumn ∧ rule.overwrite ⊆ columns)
    (h : write conflict table rows = .ok prepared) :
    prepared.statement.names.map Identifier.value ⊆
      conflictColumn.value :: (recordNames rows ++ [table]) := by
  rcases bind_eq_ok_iff.1 h with ⟨columns, shared, h⟩
  rcases bind_eq_ok_iff.1 h with ⟨name, named, h⟩
  cases h
  have own : columns.map Identifier.value ⊆ recordNames rows := rowColumns_eq_ok shared
  have target (v : Value) : v = name.value → v = table := fun here =>
    here.trans (Identifier.ofValue_eq_ok named).symm
  intro v member
  rcases List.mem_map.1 member with ⟨id, there, rfl⟩
  -- a name is the table, a column, or part of the rule for conflicts
  rcases List.mem_append.1 there with front | rule
  · rcases List.mem_cons.1 front with rfl | column
    · simp [target]
    · have shown := own (List.mem_map_of_mem column)
      simp [shown]
  · rcases List.mem_flatMap.1 rule with ⟨rule, chosen, within⟩
    rcases ruled columns rule (Option.mem_toList.1 chosen) with ⟨rfl, among⟩
    rcases List.mem_cons.1 within with rfl | column
    · exact List.mem_cons_self ..
    · have shown := own (List.mem_map_of_mem (among column))
      simp [shown]

/-- The names of a statement on rows of a table that meet a condition. -/
theorem map_value_condition {table : Value} {name : Identifier} {start : Int} {spec : Spec}
    {clauses : List Clause} {arguments : List Argument} (named : Identifier.ofValue table = .ok name)
    (lowers : clausesOf start spec = .ok (clauses, arguments)) :
    (name :: clauses.map Clause.column).map Identifier.value ⊆ columnNames spec ++ [table] := by
  rw [List.map_cons, (lowered_of_clausesOf lowers).columns, Identifier.ofValue_eq_ok named]
  intro v member
  simpa [or_comm] using member

theorem names_update {table patch : Value} {spec : Spec} (h : update table spec patch = .ok prepared) :
    prepared.statement.names.map Identifier.value ⊆ Request.names (.update table spec patch) := by
  rcases guard_eq_ok_iff.1 h with ⟨_, h⟩
  rcases guard_eq_ok_iff.1 h with ⟨_, h⟩
  rcases bind_eq_ok_iff.1 h with ⟨names, goes, h⟩
  rcases bind_eq_ok_iff.1 h with ⟨columns, named, h⟩
  rcases bind_eq_ok_iff.1 h with ⟨fields, has, h⟩
  rcases bind_eq_ok_iff.1 h with ⟨⟨clauses, arguments⟩, lowers, h⟩
  rcases bind_eq_ok_iff.1 h with ⟨name, identified, h⟩
  cases h
  have assigned : columns.map Identifier.value = fieldNames patch :=
    map_value_fields goes named has
  have parts : (name :: (numbered 1 columns).map Prod.fst ++ clauses.map Clause.column).map
      Identifier.value = table :: fieldNames patch ++ columnNames spec := by
    simp only [List.map_append, List.map_cons, numbered_fst, assigned,
      (lowered_of_clausesOf lowers).columns, Identifier.ofValue_eq_ok identified, List.cons_append]
  intro v member
  rw [Statement.names, parts] at member
  simp only [Request.names, List.mem_append, List.mem_cons] at member ⊢
  tauto

theorem names_delete {table : Value} {spec : Spec} (h : delete table spec = .ok prepared) :
    prepared.statement.names.map Identifier.value ⊆ Request.names (.delete table spec) := by
  rcases guard_eq_ok_iff.1 h with ⟨_, h⟩
  rcases bind_eq_ok_iff.1 h with ⟨⟨clauses, arguments⟩, lowers, h⟩
  rcases bind_eq_ok_iff.1 h with ⟨name, named, h⟩
  cases h
  exact map_value_condition named lowers

theorem names_count {table : Value} {spec : Spec} (h : count table spec = .ok prepared) :
    prepared.statement.names.map Identifier.value ⊆ Request.names (.count table spec) := by
  rcases bind_eq_ok_iff.1 h with ⟨⟨clauses, arguments⟩, lowers, h⟩
  rcases bind_eq_ok_iff.1 h with ⟨name, named, h⟩
  cases h
  exact map_value_condition named lowers

theorem names_rpc {name params : Value} (h : rpc name params = .ok prepared) :
    prepared.statement.names.map Identifier.value ⊆ Request.names (.rpc name params) := by
  rcases bind_eq_ok_iff.1 h with ⟨names, goes, h⟩
  rcases bind_eq_ok_iff.1 h with ⟨found, named, h⟩
  rcases bind_eq_ok_iff.1 h with ⟨function, identified, h⟩
  rcases bind_eq_ok_iff.1 h with ⟨fields, has, h⟩
  cases h
  have given : found.map Identifier.value = fieldNames params := map_value_fields goes named has
  intro v member
  rw [Statement.names, List.map_cons, numbered_fst, given, ← Identifier.ofValue_eq_ok identified] at member
  simpa [Request.names, or_comm] using member

theorem names_prepare {builder : Builder} {request : Request}
    (h : builder.prepare request = .ok prepared) :
    prepared.statement.names.map Identifier.value ⊆ builder.conflictColumn.value :: request.names := by
  cases request with
  | select table columns spec order limit offset => exact List.subset_cons_of_subset _ (names_select h)
  | insert table rows => exact names_write (fun _ _ none => absurd none (by simp)) h
  | upsert table rows =>
      apply names_write _ h
      intro columns rule chosen
      cases chosen
      exact ⟨rfl, List.filter_subset_self _⟩
  | update table spec patch => exact List.subset_cons_of_subset _ (names_update h)
  | delete table spec => exact List.subset_cons_of_subset _ (names_delete h)
  | count table spec => exact List.subset_cons_of_subset _ (names_count h)
  | rpc name params => exact List.subset_cons_of_subset _ (names_rpc h)

end Builder

/-! ## Trimmed names -/

theorem exists_name_of_selected {columns v : Value} (member : v ∈ selectedNames columns) :
    ∃ names name, Selection.ofValue columns = .ok (.columns names) ∧ name ∈ names ∧ v = .text name := by
  unfold selectedNames at member
  split at member
  · rename_i names read
    rcases List.mem_map.1 member with ⟨name, own, rfl⟩
    exact ⟨names, name, read, own, rfl⟩
  · cases member

/-- The names of a selection have been trimmed, each of them by itself. -/
theorem exists_trim_of_selection {columns : Value} {names : List String}
    (h : Selection.ofValue columns = .ok (.columns names)) : ∀ name ∈ names, ∃ s, name = trim s := by
  have printed {items : List Value} {read : List String} (h : Selection.namesOf items = .ok read) :
      ∀ name ∈ read, ∃ s, name = trim s := by
    induction items generalizing read with
    | nil =>
        cases h
        simp
    | cons item items ih =>
        rcases bind_eq_ok_iff.1 h with ⟨name, _, h⟩
        rcases bind_eq_ok_iff.1 h with ⟨others, rest, h⟩
        cases h
        exact List.forall_mem_cons.2 ⟨⟨name, rfl⟩, ih rest⟩
  cases columns with
  | null => cases h
  | text s =>
      have read : Selection.ofText s = .columns names := Except.ok.inj h
      simp only [Selection.ofText] at read
      split at read
      · cases read
      · cases read
        intro name member
        rcases List.mem_map.1 (List.mem_of_mem_filter member) with ⟨piece, _, rfl⟩
        exact ⟨_, rfl⟩
  | _ =>
      rcases bind_eq_ok_iff.1 h with ⟨items, _, h⟩
      rcases bind_eq_ok_iff.1 h with ⟨read, texts, ends⟩
      have chosen : Selection.ofNames read = .columns names := Except.ok.inj ends
      unfold Selection.ofNames at chosen
      split at chosen <;> cases chosen
      exact printed texts

namespace Builder.Request

theorem selected_subset (request : Request) : request.selected ⊆ request.names := by
  cases request with
  | select table columns spec order limit offset =>
      intro v member
      exact List.mem_append_right _ (List.mem_append_left _ member)
  | _ => exact List.nil_subset _

theorem isPlainValue_of_selected {request : Request} (pass : ∀ v ∈ request.selected, Passes v) :
    ∀ v ∈ request.selected, IsPlainValue v := by
  intro v member
  have passes := pass v member
  cases request with
  | select table columns spec order limit offset =>
      rcases exists_name_of_selected member with ⟨names, name, read, own, rfl⟩
      rcases exists_trim_of_selection read name own with ⟨s, rfl⟩
      exact isPlainValue_of_passes_trim passes
  | _ => cases member

end Builder.Request

/-! ## Every statement -/

namespace Builder

/-- A statement comes about only if the conflict column and the names of the request all pass, and it is
made of no other names. What a name may have besides a plain one is a line feed after it, but not where
it was trimmed. A name that does not pass makes the request a refused one, unless a name has no text. -/
theorem build_names (conflictColumn : Value) {request : Request} (typed : request.IsTyped) :
    (∀ prepared, build conflictColumn request = .ok prepared →
      (∀ v ∈ conflictColumn :: request.names, Passes v) ∧
        (∀ v ∈ request.selected, IsPlainValue v) ∧
          prepared.statement.names.map Identifier.value ⊆ conflictColumn :: request.names) ∧
      ((∃ v ∈ conflictColumn :: request.names, ¬Passes v) →
        Stops (conflictColumn :: request.names) (build conflictColumn request)) := by
  have vetted : Vets (conflictColumn :: request.names) (build conflictColumn request) :=
    (screens_ofValue conflictColumn).vets fun column => vets_prepare ⟨column⟩ typed
  constructor
  · intro prepared built
    -- a statement was built, so nothing was refused
    have pass : ∀ v ∈ conflictColumn :: request.names, Passes v := by
      rcases vetted with stops | pass
      · rw [built] at stops
        cases stops
      · exact pass
    refine ⟨pass, ?_, ?_⟩
    · exact Request.isPlainValue_of_selected fun v member =>
        pass v (List.mem_cons_of_mem _ (request.selected_subset member))
    · rcases bind_eq_ok_iff.1 built with ⟨column, identified, made⟩
      rw [Identifier.ofValue_eq_ok identified]
      exact names_prepare made
  · rintro ⟨v, member, bad⟩
    rcases vetted with refused | pass
    · exact refused
    · exact absurd (pass v member) bad

/-- A selection with blanks and an order by a qualified name, and a table with a semicolon. -/
theorem build_names_select :
    (∃ prepared, build (.text "id") (.select (.text "users") (.text "id , name")
        [("age", .gt (.int 3))] (some (.text "users.age", .bool true)) .null .null) = .ok prepared ∧
      prepared.statement.names.map Identifier.value ⊆ [.text "id", .text "age", .text "id",
        .text "name", .text "users", .text "users.age"]) ∧
      Stops [.text "id", .text "users; DROP TABLE users"]
        (build (.text "id") (.count (.text "users; DROP TABLE users") [])) := by
  constructor
  · have typed : Request.IsTyped (.select (.text "users") (.text "id , name")
        [("age", .gt (.int 3))] (some (.text "users.age", .bool true)) .null .null) := by
      refine ⟨⟨.columns ["id", "name"], rfl⟩, ?_⟩
      intro entry member
      rw [List.mem_singleton.1 member]
      trivial
    have built : ∃ prepared, build (.text "id") (.select (.text "users") (.text "id , name")
        [("age", .gt (.int 3))] (some (.text "users.age", .bool true)) .null .null) =
          .ok prepared := ⟨_, rfl⟩
    rcases built with ⟨prepared, built⟩
    exact ⟨prepared, built, ((build_names (.text "id") typed).1 prepared built).2.2⟩
  · have typed : Request.IsTyped (.count (.text "users; DROP TABLE users") []) := by
      intro entry none
      cases none
    have semicolon : ';' ∈ "users; DROP TABLE users".toList := by decide
    have bad : ¬Passes (.text "users; DROP TABLE users") :=
      not_passes semicolon (by decide) (by decide) (by decide)
    exact (build_names (.text "id") typed).2 ⟨_, List.mem_cons_of_mem _ (List.mem_singleton.2 rfl), bad⟩

/-- A table whose name ends in a line feed is no plain name, and it enters the statement. -/
theorem build_lineFeed :
    Request.IsTyped (.count (.text "users\n") []) ∧ ¬IsPlainValue (.text "users\n") ∧
      ∃ prepared, build (.text "id") (.count (.text "users\n") []) = .ok prepared ∧
        .text "users\n" ∈ prepared.statement.names.map Identifier.value ∧
          prepared.statement.text = "SELECT COUNT(*) FROM users\n" := by
  refine ⟨?_, ?_, ?_⟩
  · intro entry none
    cases none
  · rintro ⟨_, same, plain⟩
    cases same
    exact plain.not_mem (by decide) (by decide : isWordPart '\n' = false) (by decide)
  · exact ⟨_, rfl, List.mem_singleton.2 rfl, by decide⟩

end Builder

end DataGateway.Sql
