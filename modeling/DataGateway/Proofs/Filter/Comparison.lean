import DataGateway.Proofs.Filter.Meaning
import DataGateway.Proofs.Value.Order

/-!
# Conditions as comparisons

The conditions that compare a value with an operand fit together: what one of them says of a value, the
others can say too, from the same side or from the other one. Fractional numbers are left out, since an
indefinite one is equal to nothing.

* `Value.Exact` — the values made without fractional numbers;
* `Condition.IsMet` — a condition is tested on a value, and holds of it;
* `Condition.Coherent`, `Condition.comparisons_cohere` — the laws that tie the seven kinds of comparison
  together, and that they hold.
-/

namespace DataGateway

/-! ## Values without fractional numbers -/

/-- Is a value made of truth values, whole numbers, texts, lists and objects alone? There may be null
in it, and an object names each of its fields once. -/
inductive Value.Exact : Value → Prop
  | null : Exact .null
  | bool (b : Bool) : Exact (.bool b)
  | int (n : Int) : Exact (.int n)
  | text (s : String) : Exact (.text s)
  | list {items : List Value} : (∀ item ∈ items, Exact item) → Exact (.list items)
  | object {fields : Record} : (Fields.names fields).Nodup → (∀ entry ∈ fields, Exact entry.2) →
      Exact (.object fields)

namespace Value.Exact

variable {v : Value}

theorem wellNamed (exact : Exact v) : WellNamed v := by
  induction exact with
  | null | bool _ | int _ | text _ => exact .plain rfl
  | list _ ih => exact .list ih
  | object distinct _ ih => exact .object distinct ih

/-- Besides null, objects alone have no order. -/
theorem hasOrder (exact : Exact v) (some : v.isNull = false) (noObject : v.isObject = false) :
    v.hasOrder = true := by
  cases exact with
  | null => cases some
  | object _ _ => cases noObject
  | _ => rfl

theorem isIndefinite (exact : Exact v) : v.isIndefinite = false := by
  cases exact <;> rfl

end Value.Exact

namespace Condition

variable {x y v : Value}

/-! ## Comparisons by the order -/

/-- Is a condition met by a value that is there? -/
def IsMet (condition : Condition) (value : Value) : Prop := condition.test value true = .ok true

theorem isMet_iff (condition : Condition) (concrete : condition.IsConcrete)
    (plain : condition.pattern? = none) : condition.IsMet x ↔ condition.holds x true = true := by
  rw [IsMet, test_of_plain concrete plain, Except.ok.injEq]

/-- Two values compare so when both are something, both are truth values or neither is, and they stand
in a relation that is accepted. -/
theorem compares_iff {accept : Relation → Bool} : compares accept x v = true ↔
    x.isNull = false ∧ v.isNull = false ∧ x.isBool = v.isBool ∧
      ∃ r, x.relate v = .ok r ∧ accept r = true := by
  unfold compares
  cases x.relate v <;> simp [and_assoc]

section Present

variable (here : x.isNull = false) (there : v.isNull = false)

include here there

/-- The comparisons that ask for a single relation. -/
theorem compares_single_iff {relation : Relation} : compares (· == relation) x v = true ↔
    x.isBool = v.isBool ∧ x.relate v = .ok relation := by
  rw [compares_iff]
  simp [here, there]

/-- The comparisons that let equal values pass too. -/
theorem compares_either_iff {relation : Relation} :
    compares (fun r => r == relation || r == .same) x v = true ↔
      x.isBool = v.isBool ∧ (x.relate v = .ok relation ∨ x.relate v = .ok .same) := by
  rw [compares_iff]
  simp only [here, there, true_and, Bool.or_eq_true, beq_iff_eq]
  refine and_congr_right fun _ => ?_
  constructor
  · rintro ⟨r, found, rfl | rfl⟩
    · exact .inl found
    · exact .inr found
  · rintro (found | found)
    · exact ⟨_, found, .inl rfl⟩
    · exact ⟨_, found, .inr rfl⟩

theorem isMet_gt : (gt v).IsMet x ↔ x.isBool = v.isBool ∧ x.relate v = .ok .greater := by
  rw [isMet_iff (gt v) trivial rfl, ← compares_single_iff here there]
  rfl

theorem isMet_lt : (lt v).IsMet x ↔ x.isBool = v.isBool ∧ x.relate v = .ok .less := by
  rw [isMet_iff (lt v) trivial rfl, ← compares_single_iff here there]
  rfl

theorem isMet_gte : (gte v).IsMet x ↔
    x.isBool = v.isBool ∧ (x.relate v = .ok .greater ∨ x.relate v = .ok .same) := by
  rw [isMet_iff (gte v) trivial rfl, ← compares_either_iff here there]
  rfl

theorem isMet_lte : (lte v).IsMet x ↔
    x.isBool = v.isBool ∧ (x.relate v = .ok .less ∨ x.relate v = .ok .same) := by
  rw [isMet_iff (lte v) trivial rfl, ← compares_either_iff here there]
  rfl

theorem isMet_eq : (eq v).IsMet x ↔ x.isBool = v.isBool ∧ x.looseEq v = true := by
  rw [isMet_iff (eq v) trivial rfl, holds_eq_iff here, Value.strictEq, Bool.and_eq_true, beq_iff_eq]
  exact and_iff_right there

theorem isMet_neq : (neq v).IsMet x ↔ ¬(eq v).IsMet x := by
  rw [isMet_iff (neq v) trivial rfl, isMet_iff (eq v) trivial rfl, holds_neq_iff here, holds_eq_iff here]
  simp [there]

end Present

theorem isMet_oneOf {values : List Value} (here : x.isNull = false) :
    (oneOf values).IsMet x ↔ ∃ w ∈ values, (eq w).IsMet x := by
  rw [isMet_iff (oneOf values) trivial rfl, holds_oneOf_iff here]
  refine exists_congr fun w => and_congr_right fun _ => ?_
  rw [isMet_iff (eq w) trivial rfl, holds]
  simp [here]

/-! ## The laws -/

/-- Of being equal, above and below at most one is met. -/
theorem isMet_apart (here : x.isNull = false) (there : v.isNull = false) :
    ¬((eq v).IsMet x ∧ (gt v).IsMet x) ∧ ¬((eq v).IsMet x ∧ (lt v).IsMet x) ∧
      ¬((gt v).IsMet x ∧ (lt v).IsMet x) := by
  rw [isMet_eq here there, isMet_gt here there, isMet_lt here there]
  have still (equal : x.looseEq v = true) (r : Relation) (moved : r ≠ .same)
      (ordered : r ≠ .unordered) : x.relate v ≠ .ok r := by
    intro found
    rcases Value.relate_of_same (Bool.and_eq_true_iff.1 equal).2 found with same | unordered
    · exact moved same
    · exact ordered unordered
  refine ⟨?_, ?_, ?_⟩
  · rintro ⟨⟨_, equal⟩, _, above⟩
    exact still equal .greater nofun nofun above
  · rintro ⟨⟨_, equal⟩, _, below⟩
    exact still equal .less nofun nofun below
  · rintro ⟨⟨_, above⟩, _, below⟩
    rw [above] at below
    cases below

section Laws

variable (first : x.Exact) (second : v.Exact) (here : x.isNull = false) (there : v.isNull = false)

include first second here there

/-- One comparison from this side is the opposite one from the other side. -/
theorem isMet_turned : ((gt v).IsMet x ↔ (lt x).IsMet v) ∧ ((gte v).IsMet x ↔ (lte x).IsMet v) := by
  have turned (r : Relation) : v.relate x = .ok r.turn ↔ x.relate v = .ok r :=
    first.wellNamed.relate_turn_iff second.wellNamed
  have above : v.relate x = .ok .less ↔ x.relate v = .ok .greater := turned .greater
  have level : v.relate x = .ok .same ↔ x.relate v = .ok .same := turned .same
  rw [isMet_gt here there, isMet_lt there here, isMet_gte here there, isMet_lte there here, above,
    level, eq_comm]
  exact ⟨Iff.rfl, Iff.rfl⟩

/-- Equal values stand at the same place, when they stand anywhere. -/
theorem isMet_gte_iff (ordered : ¬(x.isObject = true ∧ v.isObject = true)) :
    (gte v).IsMet x ↔ (gt v).IsMet x ∨ (eq v).IsMet x := by
  rw [isMet_gte here there, isMet_gt here there, isMet_eq here there, ← and_or_left]
  refine and_congr_right fun _ => or_congr_right ?_
  constructor
  · intro found
    rw [Value.looseEq, first.isIndefinite, first.wellNamed.same_of_relate found]
    rfl
  · intro equal
    -- an object is equal to objects alone, so the first value is none
    have noObject : x.isObject = false := by
      cases x with
      | object fields =>
          rw [Value.looseEq, Bool.and_eq_true] at equal
          rcases Value.same_object_iff.1 equal.2 with ⟨others, rfl, _, _⟩
          exact absurd ⟨rfl, rfl⟩ ordered
      | _ => rfl
    exact Value.relate_of_looseEq (first.hasOrder here noObject) equal

end Laws

/-- What is above a value that is above a third one is above that one. -/
theorem isMet_gt_trans (first : x.Exact) (second : y.Exact) (third : v.Exact)
    (here : x.isNull = false) (between : y.isNull = false) (there : v.isNull = false)
    (above : (gt y).IsMet x) (beyond : (gt v).IsMet y) : (gt v).IsMet x := by
  rw [isMet_gt here between] at above
  rw [isMet_gt between there] at beyond
  rw [isMet_gt here there]
  exact ⟨above.1.trans beyond.1,
    first.wellNamed.relate_trans second.wellNamed third.wellNamed above.2 beyond.2⟩

/-- The laws that tie the comparisons together: for a value `x` with an operand `v`, for a third value
between them, and for a list of operands. -/
structure Coherent (x y v : Value) (values : List Value) : Prop where
  above : (gt v).IsMet x ↔ (lt x).IsMet v
  atLeast : (gte v).IsMet x ↔ (lte x).IsMet v
  equal_not_above : ¬((eq v).IsMet x ∧ (gt v).IsMet x)
  equal_not_below : ¬((eq v).IsMet x ∧ (lt v).IsMet x)
  above_not_below : ¬((gt v).IsMet x ∧ (lt v).IsMet x)
  atLeast_iff : ¬(x.isObject = true ∧ v.isObject = true) →
    ((gte v).IsMet x ↔ (gt v).IsMet x ∨ (eq v).IsMet x)
  above_trans : (gt y).IsMet x → (gt v).IsMet y → (gt v).IsMet x
  equal_or_not : Xor ((eq v).IsMet x) ((neq v).IsMet x)
  member : (oneOf values).IsMet x ↔ ∃ w ∈ values, (eq w).IsMet x
  /-- Whether the value counts as present or not, no test fails. -/
  tested : ∀ condition ∈ [eq v, neq v, gt v, gte v, lt v, lte v, oneOf values], ∀ present,
    ∃ answer, condition.test x present = .ok answer

/-- Comparisons of values without fractional numbers are coherent. -/
theorem comparisons_cohere {x y v : Value} (values : List Value) (first : x.Exact) (second : y.Exact)
    (third : v.Exact) (here : x.isNull = false) (between : y.isNull = false)
    (there : v.isNull = false) : Coherent x y v values where
  above := (isMet_turned first third here there).1
  atLeast := (isMet_turned first third here there).2
  equal_not_above := (isMet_apart here there).1
  equal_not_below := (isMet_apart here there).2.1
  above_not_below := (isMet_apart here there).2.2
  atLeast_iff := isMet_gte_iff first third here there
  above_trans := isMet_gt_trans first second third here between there
  equal_or_not := xor_iff_iff_not.2 (iff_not_comm.1 (isMet_neq here there))
  member := isMet_oneOf here
  tested := by
    intro condition member present
    -- the bare condition cannot be tested, nor can some texts, and these are none of them
    have testable : condition.IsConcrete ∧ condition.pattern? = none := by
      simp only [List.mem_cons, List.not_mem_nil, or_false] at member
      rcases member with rfl | rfl | rfl | rfl | rfl | rfl | rfl <;> exact ⟨trivial, rfl⟩
    exact ⟨_, test_of_plain testable.1 testable.2 x present⟩

/-- Lists that differ in their first items and lists that do not, with an object inside. -/
theorem comparisons_cohere_lists :
    let x : Value := .list [.int 2, .object [("k", .bool true)]]
    let y : Value := .list [.bool true, .text "b"]
    let v : Value := .list [.int 1, .text "a"]
    let values : List Value := [.null, .list [.int 2, .object [("k", .int 1)]]]
    x.Exact ∧ y.Exact ∧ v.Exact ∧ x.isNull = false ∧ y.isNull = false ∧ v.isNull = false ∧
      Coherent x y v values := by
  intro x y v values
  have inner : (Value.object [("k", .bool true)]).Exact :=
    .object (by decide) (List.forall_mem_singleton.2 (.bool true))
  have first : x.Exact := .list (List.forall_mem_cons.2 ⟨.int 2, List.forall_mem_singleton.2 inner⟩)
  have second : y.Exact :=
    .list (List.forall_mem_cons.2 ⟨.bool true, List.forall_mem_singleton.2 (.text "b")⟩)
  have third : v.Exact :=
    .list (List.forall_mem_cons.2 ⟨.int 1, List.forall_mem_singleton.2 (.text "a")⟩)
  exact ⟨first, second, third, rfl, rfl, rfl,
    comparisons_cohere values first second third rfl rfl rfl⟩

end Condition

end DataGateway
