import DataGateway.Proofs.Filter.Meaning

/-!
# Conditions on nothing

A column that a record has not got, or has null in, satisfies the check for null and no other condition.
A specification is the conjunction of its conditions, whatever their order.

* `Vacant` — a record has nothing in a column;
* `Condition.holds_withNull` — nothing compares with null;
* `Spec.accepts_iff_forall`, `Spec.eq_of_perm` — the single conditions, and conditions in another order;
* `Spec.ThreeValued`, `Spec.accepts_threeValued` — these laws together, and that every specification with
  conditions of the ten kinds keeps them;
* `Spec.accepts_unwritable` — a text cannot be looked for in a value that has none.
-/

namespace DataGateway

/-- Has a record nothing in a column, because it is missing or null? -/
def Vacant (record : Record) (column : String) : Prop :=
  Fields.get? record column = none ∨ Fields.get? record column = some .null

theorem vacant_iff {record : Record} {column : String} :
    Vacant record column ↔ ∀ value, Fields.get? record column = some value → value.isNull = true := by
  unfold Vacant
  cases Fields.get? record column with
  | none => simp
  | some value => cases value <;> simp [Value.isNull]

namespace Condition

/-- The conditions that compare a value with null. -/
def withNull : List Condition :=
  [eq .null, neq .null, gt .null, gte .null, lt .null, lte .null]

/-- Nothing compares with null, not even null. -/
theorem holds_withNull {condition : Condition} (member : condition ∈ withNull) (value : Value)
    (present : Bool) : condition.holds value present = false := by
  have nothing : Value.null.isNull = true := rfl
  simp only [withNull, List.mem_cons, List.not_mem_nil, or_false] at member
  rcases member with rfl | rfl | rfl | rfl | rfl | rfl
  · cases some : value.isNull with
    | true => simp [holds, some]
    | false => simp [holds, Value.strictEq_null some]
  all_goals simp [holds, compares, nothing]

theorem testable_of_withNull {condition : Condition} (member : condition ∈ withNull) :
    condition.IsConcrete ∧ condition.pattern? = none := by
  simp only [withNull, List.mem_cons, List.not_mem_nil, or_false] at member
  rcases member with rfl | rfl | rfl | rfl | rfl | rfl <;> exact ⟨trivial, rfl⟩

end Condition

namespace Spec

variable {spec : Spec}

/-- A condition other than the check for null does not hold of a column with nothing in it. -/
theorem holds_vacant {condition : Condition} (asks : condition ≠ .isNull) {record : Record}
    {column : String} (vacant : Vacant record column) :
    condition.holds (cellOf record column) (Fields.has record column) = false := by
  have null : (cellOf record column).isNull = true := by
    unfold cellOf
    rcases vacant with missing | null
    · rw [missing]
      rfl
    · rw [null]
      rfl
  exact Condition.holds_of_null asks null

theorem selects_eq_true_iff {record : Record} : spec.selects record = true ↔
    ∀ entry ∈ spec, entry.2.holds (cellOf record entry.1) (Fields.has record entry.1) = true := by
  rw [selects, List.all_eq_true]
  rfl

/-- A specification is accepted when its first condition is, alone, and the others are. -/
theorem accepts_cons_iff (entry : String × Condition) (spec : Spec) (record : Record) :
    accepts (.object record) (entry :: spec) = .ok true ↔
      accepts (.object record) [entry] = .ok true ∧ accepts (.object record) spec = .ok true := by
  rcases entry with ⟨column, condition⟩
  rw [accepts_cons, accepts_cons]
  cases condition.test (cellOf record column) (Fields.has record column) with
  | error fault => exact ⟨nofun, fun both => nomatch both.1⟩
  | ok holds =>
      cases holds with
      | true => exact ⟨fun others => ⟨rfl, others⟩, And.right⟩
      | false => exact ⟨nofun, fun both => nomatch both.1⟩

theorem accepts_iff_forall (record : Record) : spec.accepts (.object record) = .ok true ↔
    ∀ entry ∈ spec, accepts (.object record) [entry] = .ok true := by
  induction spec with
  | nil => simp [accepts]
  | cons entry spec ih => rw [accepts_cons_iff, List.forall_mem_cons, ih]

theorem accepts_isNull_iff (column : String) (record : Record) :
    accepts (.object record) [(column, .isNull)] = .ok true ↔ Vacant record column := by
  have concrete : IsConcrete [(column, .isNull)] := List.forall_mem_singleton.2 trivial
  have tells : Tells [(column, .isNull)] record := List.forall_mem_singleton.2 rfl
  rw [accepts_object concrete tells, Except.ok.injEq, selects_eq_true_iff, List.forall_mem_singleton,
    holds_isNull_iff, vacant_iff]

section Concrete

variable (concrete : spec.IsConcrete) {record : Record}

include concrete

/-- Nothing goes wrong but that a value has no text. -/
theorem fault_of_accepts {fault : Fault} (failed : spec.accepts (.object record) = .error fault) :
    fault = .misuse .wholeUnwritable := by
  induction spec with
  | nil => cases failed
  | cons entry spec ih =>
      rcases entry with ⟨column, condition⟩
      rcases List.forall_mem_cons.1 concrete with ⟨first, others⟩
      rw [accepts_cons, Condition.test_of_isConcrete first] at failed
      split at failed
      · -- the condition has been tested, so it is one of the others
        cases holds : condition.holds (cellOf record column) (Fields.has record column) with
        | true =>
            rw [holds] at failed
            exact ih others failed
        | false =>
            rw [holds] at failed
            cases failed
      · cases failed
        rfl

/-- A column with nothing in it spoils the conjunction, unless one checks for null. -/
theorem eq_false_of_vacant {column : String} {condition : Condition}
    (member : (column, condition) ∈ spec) (asks : condition ≠ .isNull) (vacant : Vacant record column)
    {answer : Bool} (answered : spec.accepts (.object record) = .ok answer) : answer = false := by
  rw [eq_selects_of_accepts concrete answered, ← Bool.not_eq_true, selects_eq_true_iff]
  intro every
  have holds := every _ member
  rw [holds_vacant asks vacant] at holds
  cases holds

/-- Conditions in another order give the same answer, where both orders give one. -/
theorem eq_of_perm {other : Spec} (same : other.Perm spec) {answer answer' : Bool}
    (answered : spec.accepts (.object record) = .ok answer)
    (answered' : other.accepts (.object record) = .ok answer') : answer' = answer := by
  have concrete' : other.IsConcrete := fun entry member => concrete entry (same.mem_iff.1 member)
  rw [eq_selects_of_accepts concrete answered, eq_selects_of_accepts concrete' answered', selects,
    selects, same.all_eq]

/-- Where all conditions can be tested, they give an answer in every order. -/
theorem exists_answer {other : Spec} (same : other.Perm spec) (tells : spec.Tells record) :
    ∃ answer, other.accepts (.object record) = .ok answer :=
  ⟨_, accepts_object (fun entry member => concrete entry (same.mem_iff.1 member))
    fun entry member => tells entry (same.mem_iff.1 member)⟩

end Concrete

/-- What three-valued logic asks of a specification and a record: an answer where all conditions can be
tested, which only the check for null gets from nothing, and which is the conjunction of the single
conditions. Where one cannot be tested, there may be an answer all the same, and it is the same one then. -/
structure ThreeValued (spec : Spec) (record : Record) : Prop where
  answered : spec.Tells record →
    ∀ other : Spec, other.Perm spec → ∃ answer, other.accepts (.object record) = .ok answer
  raised : ∀ fault, spec.accepts (.object record) = .error fault → fault = .misuse .wholeUnwritable
  unsatisfied : ∀ column condition, (column, condition) ∈ spec → condition ≠ .isNull →
    Vacant record column → ∀ answer, spec.accepts (.object record) = .ok answer → answer = false
  checked : ∀ column, accepts (.object record) [(column, .isNull)] = .ok true ↔ Vacant record column
  uncompared : ∀ condition ∈ Condition.withNull, ∀ value present,
    condition.test value present = .ok false
  reordered : ∀ other : Spec, other.Perm spec → ∀ answer answer',
    spec.accepts (.object record) = .ok answer → other.accepts (.object record) = .ok answer' →
    answer' = answer
  conjunction : spec.accepts (.object record) = .ok true ↔
    ∀ entry ∈ spec, accepts (.object record) [entry] = .ok true

/-- Specifications with conditions of the ten kinds are so on every record. -/
theorem accepts_threeValued (concrete : spec.IsConcrete) (record : Record) :
    spec.ThreeValued record where
  answered := fun tells _ same => exists_answer concrete same tells
  raised := fun _ failed => fault_of_accepts concrete failed
  unsatisfied := fun _ _ member asks vacant _ answered =>
    eq_false_of_vacant concrete member asks vacant answered
  checked := fun column => accepts_isNull_iff column record
  uncompared := by
    intro condition member value present
    rcases Condition.testable_of_withNull member with ⟨concrete, plain⟩
    rw [Condition.test_of_plain concrete plain, Condition.holds_withNull member]
  reordered := fun _ same _ _ answered answered' => eq_of_perm concrete same answered answered'
  conjunction := accepts_iff_forall record

/-- The text `None` is sought in a column with null, and a column is missing. -/
theorem accepts_threeValued_text :
    let spec : Spec := [("gone", .isNull), ("name", .like (.text "None")), ("n", .oneOf [.null])]
    let record : Record := [("name", .null), ("n", .int 1)]
    spec.IsConcrete ∧ spec.Tells record ∧ Vacant record "gone" ∧ Vacant record "name" ∧
      spec.ThreeValued record := by
  intro spec record
  have concrete : spec.IsConcrete := by
    intro entry member
    simp only [spec, List.mem_cons, List.not_mem_nil, or_false] at member
    rcases member with rfl | rfl | rfl <;> trivial
  exact ⟨concrete, by decide, .inl rfl, .inr rfl, accepts_threeValued concrete record⟩

/-- A text is sought in a column with a whole number that has none. -/
theorem accepts_unwritable :
    let spec : Spec := [("n", .like (.text "1"))]
    let record : Record := [("n", .int (10 ^ Numeral.digitLimit))]
    spec.IsConcrete ∧ spec.accepts (.object record) = .error (.misuse .wholeUnwritable) := by
  intro spec record
  have large : (Value.int (10 ^ Numeral.digitLimit)).isPrintable = false :=
    Numeral.isWritable_power le_rfl
  have untold : (Condition.like (.text "1")).tells (.int (10 ^ Numeral.digitLimit)) = false := by
    rw [Condition.tells, large]
    rfl
  have concrete : (Condition.like (.text "1")).IsConcrete := trivial
  refine ⟨List.forall_mem_singleton.2 concrete, ?_⟩
  have found : cellOf record "n" = .int (10 ^ Numeral.digitLimit) := rfl
  rw [accepts_cons, found, Condition.test_of_isConcrete concrete, untold]
  rfl

end Spec

end DataGateway
