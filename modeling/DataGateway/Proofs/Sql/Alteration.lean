import DataGateway.Proofs.Sql.Names
import DataGateway.Proofs.Sql.Writing

/-!
# Statements that change and delete rows

A statement that changes or deletes rows has a clause for every condition that was asked for, and there
is one. The assignments of a change stand in front and take the first placeholders, so the clauses count
on from them.

* `Alteration.Says`, `Removal.Says` — what was read from a statement says what was asked for;
* `Builder.update_faithful`, `Builder.delete_faithful` — every such statement of the builder does.
-/

namespace DataGateway.Sql

/-! ## Clauses -/

/-- A comparison with an argument is what a condition asks for: values are adapted, while elements and
patterns go over as they are. -/
inductive AsksFor : Condition → Comparison → Argument → Prop where
  | eq {v : Value} {argument : Argument} : argument.Carries v → AsksFor (.eq v) .equal argument
  | neq {v : Value} {argument : Argument} : argument.Carries v → AsksFor (.neq v) .notEqual argument
  | gt {v : Value} {argument : Argument} : argument.Carries v → AsksFor (.gt v) .greater argument
  | gte {v : Value} {argument : Argument} :
      argument.Carries v → AsksFor (.gte v) .greaterOrEqual argument
  | lt {v : Value} {argument : Argument} : argument.Carries v → AsksFor (.lt v) .less argument
  | lte {v : Value} {argument : Argument} :
      argument.Carries v → AsksFor (.lte v) .lessOrEqual argument
  | oneOf (values : List Value) : AsksFor (.oneOf values) .anyOf (.plain (.list values))
  | like (pattern : Value) :
      AsksFor (.like pattern) .like (.plain (.text (Condition.patternFor pattern)))
  | ilike (pattern : Value) :
      AsksFor (.ilike pattern) .ilike (.plain (.text (Condition.patternFor pattern)))

theorem asksFor_of_comparisonOf? {condition : Condition} {comparison : Comparison} {argument : Argument}
    (lowers : comparisonOf? condition = .ok (some (comparison, argument))) :
    AsksFor condition comparison argument := by
  cases condition <;> cases lowers
  case eq v => exact .eq (Argument.carries_ofValue v)
  case neq v => exact .neq (Argument.carries_ofValue v)
  case gt v => exact .gt (Argument.carries_ofValue v)
  case gte v => exact .gte (Argument.carries_ofValue v)
  case lt v => exact .lt (Argument.carries_ofValue v)
  case lte v => exact .lte (Argument.carries_ofValue v)
  case oneOf values => exact .oneOf values
  case like pattern => exact .like pattern
  case ilike pattern => exact .ilike pattern

/-- A clause, read with the arguments of its statement, says a condition on a column. -/
inductive Clause.Says (arguments : List Argument) : Clause → String × Condition → Prop where
  | isNull (column : Identifier) : Says arguments (.isNull column) (column.text, .isNull)
  | compared {condition : Condition} {comparison : Comparison} {argument : Argument} {n : Int}
      (column : Identifier) : AsksFor condition comparison argument →
      argumentFor? arguments n = some argument →
      Says arguments (.compared column comparison n) (column.text, condition)

theorem argumentFor?_append (front : List Argument) (argument : Argument) (rest : List Argument) :
    argumentFor? (front ++ argument :: rest) (front.length + 1 : Nat) = some argument := by
  have place : ((front.length + 1 : Nat) : Int).toNat - 1 = front.length := by omega
  rw [argumentFor?, if_pos (by omega), place]
  simp

/-- The clauses of a specification say its conditions, whatever arguments stand in front. -/
theorem Lowered.clauses_say {start : Int} {spec : Spec} {clauses : List Clause}
    {arguments : List Argument} (h : Lowered start spec clauses arguments) (front : List Argument)
    (behind : start = (front.length + 1 : Nat)) :
    List.Forall₂ (Clause.Says (front ++ arguments)) clauses spec := by
  induction h generalizing front with
  | nil start => exact .nil
  | isNull column _ ih => exact .cons (.isNull column) (ih front behind)
  | @compared start spec clauses arguments condition comparison argument column lowers _ ih =>
      have first : argumentFor? (front ++ argument :: arguments) start = some argument :=
        behind ▸ argumentFor?_append front argument arguments
      refine .cons (.compared column (asksFor_of_comparisonOf? lowers) first) ?_
      -- for the rest the argument of this clause stands in front too
      have others := ih (front ++ [argument]) (by simp; omega)
      rwa [List.append_assoc] at others

/-! ## Assignments -/

/-- An assignment, read with the arguments of its statement, sets a column to a value. -/
def Assigns (arguments : List Argument) (assignment : Identifier × Int)
    (field : String × Value) : Prop :=
  assignment.1.text = field.1 ∧
    ∃ argument, argumentFor? arguments assignment.2 = some argument ∧ argument.Carries field.2

theorem assigns_numbered {columns : List Identifier} {fields : Record}
    (named : columns.map Identifier.text = fields.names) (front rest : List Argument) :
    List.Forall₂ (Assigns (front ++ (fields.values.map Argument.ofValue ++ rest)))
      ((numbered (front.length + 1) columns).map fun pair => (pair.1, (pair.2 : Int))) fields := by
  induction fields generalizing columns front with
  | nil =>
      cases columns with
      | nil => exact .nil
      | cons column columns => cases named
  | cons field fields ih =>
      cases columns with
      | nil => cases named
      | cons column columns =>
          rcases List.cons.inj named with ⟨first, named⟩
          have argument := argumentFor?_append front (.ofValue field.2)
            ((Fields.values fields).map Argument.ofValue ++ rest)
          refine .cons ⟨first, _, argument, Argument.carries_ofValue field.2⟩ ?_
          have others := ih named (front ++ [.ofValue field.2])
          rw [List.length_append, List.append_assoc] at others
          exact others

/-! ## Statements -/

/-- What was read about rows to change says what was asked for: the columns of a patch are assigned its
values, in order, by the first placeholders, and there is a clause for every condition, with the
placeholders behind those. -/
structure Alteration.Says (alteration : Alteration) (fields : Record) (spec : Spec)
    (arguments : List Argument) : Prop where
  assignments : List.Forall₂ (Assigns arguments) alteration.assignments fields
  numbers : alteration.assignments.map Prod.snd = (List.range' 1 fields.length).map Int.ofNat
  clauses : List.Forall₂ (Clause.Says arguments) alteration.clauses spec
  behind : ∃ more, arguments.length = fields.length + more ∧
    clauseNumbers alteration.clauses = List.range' (fields.length + 1) more

/-- What was read about rows to delete says what was asked for. -/
structure Removal.Says (removal : Removal) (spec : Spec) (arguments : List Argument) : Prop where
  clauses : List.Forall₂ (Clause.Says arguments) removal.clauses spec
  numbers : clauseNumbers removal.clauses = List.range' 1 arguments.length

/-- The assignments of a patch, and clauses that count on from them, say both. -/
theorem Lowered.alteration_faithful {fields : Record} {spec : Spec} {clauses : List Clause}
    {arguments : List Argument} (h : Lowered (fields.length + 1 : Nat) spec clauses arguments)
    {columns : List Identifier} (named : columns.map Identifier.text = fields.names)
    (table : Identifier) :
    Alteration.Says ⟨table, (numbered 1 columns).map fun pair => (pair.1, (pair.2 : Int)), clauses⟩
      fields spec (fields.values.map Argument.ofValue ++ arguments) := by
  have width : columns.length = fields.length := by
    simpa [Fields.names] using congrArg List.length named
  have many : (fields.values.map Argument.ofValue).length = fields.length := by simp [Fields.values]
  refine ⟨assigns_numbered named [] arguments, ?_, h.clauses_say _ (by rw [many]), arguments.length,
    ?_, ?_⟩
  · have numbers := numbered_snd 1 columns
    rw [width] at numbers
    rw [← numbers, List.map_map, List.map_map]
    rfl
  · rw [List.length_append, many]
  · exact h.clauseNumbers (by omega)

theorem Lowered.clauses_ne_nil {start : Int} {spec : Spec} {clauses : List Clause}
    {arguments : List Argument} (h : Lowered start spec clauses arguments) (some : spec ≠ []) :
    clauses ≠ [] := by
  cases h with
  | nil start => exact absurd rfl some
  | isNull column _ | compared column _ _ => exact List.cons_ne_nil _ _

namespace Builder

variable {table : Value} {spec : Spec} {prepared : Prepared}

/-- A statement that changes rows has conditions and columns, and says them. -/
theorem update_faithful {patch : Value} (h : update table spec patch = .ok prepared) :
    ∃ fields alteration, patch = .object fields ∧ fields ≠ [] ∧ spec ≠ [] ∧
      readUpdate? prepared.statement.text = some alteration ∧ alteration.table.value = table ∧
        alteration.Says fields spec prepared.arguments := by
  rcases guard_eq_ok_iff.1 h with ⟨conditions, h⟩
  rcases guard_eq_ok_iff.1 h with ⟨columns, h⟩
  rcases bind_eq_ok_iff.1 h with ⟨names, goes, h⟩
  rcases bind_eq_ok_iff.1 h with ⟨found, named, h⟩
  rcases bind_eq_ok_iff.1 h with ⟨fields, has, h⟩
  rcases bind_eq_ok_iff.1 h with ⟨⟨clauses, arguments⟩, lowers, h⟩
  rcases bind_eq_ok_iff.1 h with ⟨name, identified, h⟩
  cases h
  have some : spec ≠ [] := by simpa using conditions
  -- only a mapping has values to set
  cases patch with
  | object own =>
      have texts : found.map Identifier.text = Fields.names own :=
        texts_of_values (map_value_fields goes named has)
      cases has
      have filled : fields ≠ [] := by simpa [Value.truthy] using columns
      have assigned : numbered 1 found ≠ [] := by
        intro none
        have nothing : found = [] := by simpa [numbered] using none
        rw [nothing] at texts
        exact filled (List.map_eq_nil_iff.1 texts.symm)
      have start : ((fields.values.map Argument.ofValue).length + 1 : Int) =
          (fields.length + 1 : Nat) := by
        simp [Fields.values]
      have lowered := lowered_of_clausesOf lowers
      rw [start] at lowered
      exact ⟨fields, _, rfl, filled, some, readUpdate?_text name assigned (lowered.clauses_ne_nil some)
        (lowered.positive (by omega)), (Identifier.ofValue_eq_ok identified).symm,
        lowered.alteration_faithful texts name⟩
  | _ => cases has

/-- A statement that deletes rows has conditions, and says them. -/
theorem delete_faithful (h : delete table spec = .ok prepared) :
    ∃ removal, spec ≠ [] ∧ readDelete? prepared.statement.text = some removal ∧
      removal.table.value = table ∧ removal.Says spec prepared.arguments := by
  rcases guard_eq_ok_iff.1 h with ⟨conditions, h⟩
  rcases bind_eq_ok_iff.1 h with ⟨⟨clauses, arguments⟩, lowers, h⟩
  rcases bind_eq_ok_iff.1 h with ⟨name, identified, h⟩
  cases h
  have some : spec ≠ [] := by simpa using conditions
  have lowered := lowered_of_clausesOf lowers
  refine ⟨_, some, readDelete?_text name (lowered.clauses_ne_nil some) (lowered.positive (by decide)),
    (Identifier.ofValue_eq_ok identified).symm, ?_, lowered.clauseNumbers (by decide)⟩
  exact lowered.clauses_say [] rfl

end Builder

end DataGateway.Sql
