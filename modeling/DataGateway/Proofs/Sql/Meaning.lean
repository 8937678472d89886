import DataGateway.Proofs.Filter.Meaning
import DataGateway.Proofs.Sql.Reading

/-!
# Meaning of conditions

What the clauses of a condition say about a record, and that the condition made from a filter
specification says what the specification says.

* `Lowered` — which clauses with which arguments a specification has, from a number on;
* `Clause.IsTrue` — a clause is true of a record, for given arguments;
* `whereText_selects_iff` — the text of a specification, read back, is true of exactly the records
  that the specification accepts.
-/

namespace DataGateway.Sql

open Text

/-! ## The clauses of a specification -/

/-- The clauses of a specification and their arguments, when placeholders count from a number on. A
check for null has no argument and takes no number. -/
inductive Lowered : Int → Spec → List Clause → List Argument → Prop where
  | nil (start : Int) : Lowered start [] [] []
  | isNull {start : Int} {spec : Spec} {clauses : List Clause} {arguments : List Argument}
      (column : Identifier) :
      Lowered start spec clauses arguments →
      Lowered start ((column.text, .isNull) :: spec) (.isNull column :: clauses) arguments
  | compared {start : Int} {spec : Spec} {clauses : List Clause} {arguments : List Argument}
      {condition : Condition} {comparison : Comparison} {argument : Argument}
      (column : Identifier) :
      comparisonOf? condition = .ok (some (comparison, argument)) →
      Lowered (start + 1) spec clauses arguments →
      Lowered start ((column.text, condition) :: spec)
        (.compared column comparison start :: clauses) (argument :: arguments)

theorem comparisonOf?_eq_none {condition : Condition} (h : comparisonOf? condition = .ok none) :
    condition = .isNull := by
  cases condition <;> first | rfl | cases h

theorem Lowered.clausesOf_eq {start : Int} {spec : Spec} {clauses : List Clause}
    {arguments : List Argument} (h : Lowered start spec clauses arguments) :
    clausesOf start spec = .ok (clauses, arguments) := by
  induction h with
  | nil start => rfl
  | isNull column _ ih =>
      simp only [clausesOf, Identifier.ofName_text, comparisonOf?, bind, Except.bind, ih]
      rfl
  | compared column lowers _ ih =>
      simp only [clausesOf, Identifier.ofName_text, lowers, bind, Except.bind, ih]
      rfl

theorem lowered_of_clausesOf {start : Int} {spec : Spec} {clauses : List Clause}
    {arguments : List Argument} (h : clausesOf start spec = .ok (clauses, arguments)) :
    Lowered start spec clauses arguments := by
  -- induction on the specification; the number goes on with every clause that has an argument
  induction spec generalizing start clauses arguments with
  | nil =>
      cases h
      exact .nil start
  | cons entry spec ih =>
      rcases entry with ⟨column, condition⟩
      simp only [clausesOf, bind, Except.bind] at h
      cases named : Identifier.ofName column with
      | error fault => simp [named] at h
      | ok name =>
          cases Identifier.ofName_eq_ok named
          simp only [named] at h
          cases lowers : comparisonOf? condition with
          | error fault => simp [lowers] at h
          | ok comparison? =>
              simp only [lowers] at h
              cases comparison? with
              | none =>
                  cases comparisonOf?_eq_none lowers
                  cases rest : clausesOf start spec with
                  | error fault => simp [rest] at h
                  | ok found =>
                      simp only [rest] at h
                      cases h
                      exact .isNull name (ih rest)
              | some found =>
                  rcases found with ⟨comparison, argument⟩
                  cases rest : clausesOf (start + 1) spec with
                  | error fault => simp [rest] at h
                  | ok found =>
                      simp only [rest] at h
                      cases h
                      exact .compared name lowers (ih rest)

/-- Identifiers with conditions that can be tested always have clauses. -/
theorem exists_lowered {spec : Spec} (columns : ∀ entry ∈ spec, isIdentifier entry.1.toList = true)
    (concrete : spec.IsConcrete) (start : Int) :
    ∃ clauses arguments, Lowered start spec clauses arguments := by
  induction spec generalizing start with
  | nil => exact ⟨[], [], .nil start⟩
  | cons entry spec ih =>
      rcases entry with ⟨column, condition⟩
      have valid : isIdentifier column.toList = true := columns _ (List.mem_cons_self ..)
      have testable : condition.IsConcrete := concrete _ (List.mem_cons_self ..)
      have rest := ih (fun e he => columns e (List.mem_cons_of_mem _ he))
        (fun e he => concrete e (List.mem_cons_of_mem _ he))
      let name : Identifier := ⟨column, valid⟩
      cases lowers : comparisonOf? condition with
      | error fault =>
          -- only the bare condition is refused, and it cannot be tested
          cases condition with
          | unspecified => exact testable.elim
          | _ => cases lowers
      | ok comparison? =>
          cases comparison? with
          | none =>
              cases comparisonOf?_eq_none lowers
              rcases rest start with ⟨clauses, arguments, h⟩
              exact ⟨_, _, .isNull name h⟩
          | some found =>
              rcases rest (start + 1) with ⟨clauses, arguments, h⟩
              exact ⟨_, _, .compared name lowers h⟩

theorem Lowered.isNumberedFrom {start : Int} {spec : Spec} {clauses : List Clause}
    {arguments : List Argument} (h : Lowered start spec clauses arguments) :
    ∀ clause ∈ clauses, clause.IsNumberedFrom start := by
  induction h with
  | nil start =>
      intro clause hc
      cases hc
  | isNull column _ ih =>
      intro clause hc
      rcases List.mem_cons.1 hc with rfl | hc
      · trivial
      · exact ih clause hc
  | compared column _ _ ih =>
      intro clause hc
      rcases List.mem_cons.1 hc with rfl | hc
      · exact Int.le_refl _
      · exact Clause.IsNumberedFrom.mono (ih clause hc) (by omega)

/-! ## Truth of clauses -/

/-- The value for a placeholder when the arguments are counted from a number on. -/
def argumentAt (start : Int) (arguments : List Argument) (n : Int) : Option Value :=
  if n < start then none else arguments[(n - start).toNat]?.map Argument.value

/-- Does a value that is not null stand in a comparison to an operand? -/
def Comparison.Relates (value operand : Value) : Comparison → Prop
  | .equal => operand.isNull = false ∧ value.strictEq operand = true
  | .notEqual => operand.isNull = false ∧ value.strictEq operand = false
  | .greater => Condition.compares (· == .greater) value operand = true
  | .greaterOrEqual => Condition.compares (fun r => r == .greater || r == .same) value operand = true
  | .less => Condition.compares (· == .less) value operand = true
  | .lessOrEqual => Condition.compares (fun r => r == .less || r == .same) value operand = true
  | .anyOf => ∃ items, operand = .list items ∧ ∃ item ∈ items, value.strictEq item = true
  | .like => ∃ pattern, operand = .text pattern ∧
      LikePattern.Matches pattern.toList value.display.toList
  | .ilike => ∃ pattern, operand = .text pattern ∧
      LikePattern.Matches (foldCase pattern.toList) (foldCase value.display.toList)

/-- Is a clause true of a record? Of a null or missing column only a check for null is true. -/
def Clause.IsTrue (argument : Int → Option Value) (record : Record) : Clause → Prop
  | .isNull column => ∀ value, Fields.get? record column.text = some value → value.isNull = true
  | .compared column comparison n =>
      ∃ value operand, Fields.get? record column.text = some value ∧ value.isNull = false ∧
        argument n = some operand ∧ comparison.Relates value operand

/-- Are all clauses true of a record? -/
def AllTrue (argument : Int → Option Value) (record : Record) (clauses : List Clause) : Prop :=
  ∀ clause ∈ clauses, clause.IsTrue argument record

theorem argumentAt_start {start : Int} {argument : Argument} {arguments : List Argument} :
    argumentAt start (argument :: arguments) start = some argument.value := by
  simp [argumentAt]

theorem argumentAt_cons {start n : Int} {argument : Argument} {arguments : List Argument}
    (h : start + 1 ≤ n) :
    argumentAt start (argument :: arguments) n = argumentAt (start + 1) arguments n := by
  have index : (n - start).toNat = (n - (start + 1)).toNat + 1 := by omega
  rw [argumentAt, argumentAt, if_neg (by omega), if_neg (by omega), index]
  simp

/-- Clauses that count from the next number on do not see the first argument. -/
theorem allTrue_cons_argument {start : Int} {argument : Argument} {arguments : List Argument}
    {record : Record} {clauses : List Clause}
    (numbered : ∀ clause ∈ clauses, clause.IsNumberedFrom (start + 1)) :
    AllTrue (argumentAt start (argument :: arguments)) record clauses ↔
      AllTrue (argumentAt (start + 1) arguments) record clauses := by
  apply forall₂_congr
  intro clause hc
  -- no clause here has the number of the first argument
  have from_ := numbered clause hc
  cases clause with
  | isNull column => exact Iff.rfl
  | compared column comparison n => simp only [Clause.IsTrue, argumentAt_cons from_]

/-! ## Truth and acceptance -/

@[simp]
theorem Argument.value_ofValue (v : Value) : (Argument.ofValue v).value = v := by
  cases v <;> rfl

/-- A comparison with the argument of a condition holds when the condition does. -/
theorem relates_iff_holds {condition : Condition} {comparison : Comparison} {argument : Argument}
    (lowers : comparisonOf? condition = .ok (some (comparison, argument))) {value : Value}
    (some : value.isNull = false) :
    comparison.Relates value argument.value ↔ condition.holds value true = true := by
  cases condition with
  | eq operand =>
      cases lowers
      rw [Condition.holds_eq_iff some, Argument.value_ofValue]
      rfl
  | neq operand =>
      cases lowers
      rw [Condition.holds_neq_iff some, Argument.value_ofValue]
      rfl
  | gt operand | gte operand | lt operand | lte operand =>
      cases lowers
      simp [Comparison.Relates, Condition.holds]
  | like pattern =>
      cases lowers
      rw [Condition.holds_like_iff some]
      simp [Comparison.Relates, Argument.value]
  | ilike pattern =>
      cases lowers
      rw [Condition.holds_ilike_iff some]
      simp [Comparison.Relates, Argument.value]
  | oneOf values =>
      cases lowers
      rw [Condition.holds_oneOf_iff some]
      simp [Comparison.Relates, Argument.value]
  | isNull => cases lowers
  | unspecified => cases lowers

theorem isTrue_compared_iff {condition : Condition} {comparison : Comparison} {argument : Argument}
    (lowers : comparisonOf? condition = .ok (some (comparison, argument))) (start : Int)
    (arguments : List Argument) (record : Record) (column : Identifier) :
    (Clause.compared column comparison start).IsTrue (argumentAt start (argument :: arguments))
        record ↔
      condition.holds (Spec.cellOf record column.text) (Fields.has record column.text) = true := by
  have asks : condition ≠ .isNull := by
    rintro rfl
    cases lowers
  have filled : Filled record column.text (fun value => comparison.Relates value argument.value) ↔
      condition.holds (Spec.cellOf record column.text) (Fields.has record column.text) = true :=
    filled_iff asks fun value some => (relates_iff_holds lowers some).symm
  rw [← filled, Clause.IsTrue, argumentAt_start]
  simp [Filled]

/-- The clauses of a specification are all true of exactly the records that it selects. -/
theorem Lowered.allTrue_iff {start : Int} {spec : Spec} {clauses : List Clause}
    {arguments : List Argument} (h : Lowered start spec clauses arguments) (record : Record) :
    AllTrue (argumentAt start arguments) record clauses ↔ spec.selects record = true := by
  induction h with
  | nil start =>
      simp [AllTrue, Spec.selects]
  | @isNull start spec clauses arguments column _ ih =>
      have first : (Clause.isNull column).IsTrue (argumentAt start arguments) record ↔ _ :=
        holds_isNull_iff.symm
      rw [AllTrue, List.forall_mem_cons, first, ← AllTrue, ih]
      simp [Spec.selects_cons]
  | @compared start spec clauses arguments condition comparison argument column lowers rest ih =>
      have first := isTrue_compared_iff lowers start arguments record column
      -- the rest is about the same arguments without the first one
      rw [AllTrue, List.forall_mem_cons, first, ← AllTrue, allTrue_cons_argument rest.isNumberedFrom,
        ih]
      simp [Spec.selects_cons]

/-- The condition made from a specification, read back from its text with its arguments, is true of
exactly the records that the specification accepts. -/
theorem whereText_selects_iff (spec : Spec) (start : Int) (record : Record) (positive : 1 ≤ start)
    (columns : ∀ entry ∈ spec, isIdentifier entry.1.toList = true) (concrete : spec.IsConcrete) :
    ∃ clauses arguments read,
      clausesOf start spec = .ok (clauses, arguments) ∧
      readWhere? (whereText clauses) = some read ∧
      spec.Agrees record (AllTrue (argumentAt start arguments) record read) ∧
      (spec = [] → whereText clauses = "" ∧ arguments = [] ∧
        spec.accepts (.object record) = .ok true) := by
  rcases exists_lowered columns concrete start with ⟨clauses, arguments, lowered⟩
  have numbered : ∀ clause ∈ clauses, clause.IsNumberedFrom 0 := fun clause hc =>
    (lowered.isNumberedFrom clause hc).mono (by omega)
  refine ⟨clauses, arguments, clauses, lowered.clausesOf_eq, readWhere?_whereText numbered,
    Spec.agrees_of_selects concrete (lowered.allTrue_iff record), ?_⟩
  rintro rfl
  cases lowered
  exact ⟨rfl, rfl, rfl⟩

/-- Conditions of five kinds, counted from seven on. -/
theorem whereText_selects_iff_mixed :
    let spec : Spec := [("gone", .isNull), ("n", .oneOf [.int 1, .int 2]),
      ("t.name", .ilike (.text "A_\\%")), ("tags", .eq (.list [.null])), ("age", .gte (.int 18))]
    let record : Record := [("age", .int 18), ("tags", .list [.null]), ("n", .int 2),
      ("t.name", .text "xa_\\%")]
    (1 : Int) ≤ 7 ∧ (∀ entry ∈ spec, isIdentifier entry.1.toList = true) ∧ spec.IsConcrete ∧
    ∃ clauses arguments read,
      clausesOf 7 spec = .ok (clauses, arguments) ∧
      readWhere? (whereText clauses) = some read ∧
      spec.Agrees record (AllTrue (argumentAt 7 arguments) record read) ∧
      (spec = [] → whereText clauses = "" ∧ arguments = [] ∧
        spec.accepts (.object record) = .ok true) := by
  intro spec record
  have columns : ∀ entry ∈ spec, isIdentifier entry.1.toList = true := by decide +kernel
  have concrete : spec.IsConcrete := by
    intro entry he
    simp only [spec, List.mem_cons, List.not_mem_nil, or_false] at he
    rcases he with rfl | rfl | rfl | rfl | rfl <;> trivial
  exact ⟨by decide, columns, concrete,
    whereText_selects_iff spec 7 record (by decide) columns concrete⟩

end DataGateway.Sql
