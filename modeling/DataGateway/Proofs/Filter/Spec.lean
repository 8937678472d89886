import DataGateway.Filter.Spec
import DataGateway.Proofs.Fields
import DataGateway.Proofs.Text.LikePattern
import DataGateway.Proofs.Value.Print

/-!
# The reference predicate

A specification whose conditions can all be tested gives a record an answer, and the answer is the
conjunction of what its conditions say of the cells of the record. The one thing that can keep a condition
from being tested is a value without a text, where texts are compared.

* `Spec.Tells` — all conditions can be tested on a record;
* `Spec.accepts_object`, `Spec.eq_selects_of_accepts` — there is an answer, and it is that one;
* `Spec.Agrees` — a record is kept just when it is accepted;
* `Spec.Tells.of_printable` — where everything has a text, all can be tested.
-/

namespace DataGateway

/-! ## Conditions -/

theorem Condition.containsText_iff {fold : List Char → List Char} {value pattern : Value}
    (some : value.isNull = false) :
    containsText fold value pattern = true ↔
      fold pattern.display.toList <:+: fold value.display.toList := by
  simp [containsText, some, Text.occursIn_iff]

/-- What a condition is tested for that is one of the ten kinds. -/
theorem Condition.test_of_isConcrete {condition : Condition} (concrete : condition.IsConcrete)
    (value : Value) (present : Bool) : condition.test value present =
      if condition.tells value then .ok (condition.holds value present)
      else .error (.misuse .wholeUnwritable) := by
  cases condition with
  | unspecified => exact concrete.elim
  | _ => rfl

theorem Condition.test_of_tells {condition : Condition} (concrete : condition.IsConcrete)
    {value : Value} (tells : condition.tells value = true) (present : Bool) :
    condition.test value present = .ok (condition.holds value present) := by
  rw [test_of_isConcrete concrete, if_pos tells]

/-- The texts that a condition looks for. -/
def Condition.pattern? : Condition → Option Value
  | like pattern | ilike pattern => some pattern
  | _ => none

/-- Where no text is looked for, every value can be tested. -/
theorem Condition.test_of_plain {condition : Condition} (concrete : condition.IsConcrete)
    (plain : condition.pattern? = none) (value : Value) (present : Bool) :
    condition.test value present = .ok (condition.holds value present) := by
  cases condition with
  | unspecified => exact concrete.elim
  | like _ | ilike _ => cases plain
  | _ => rfl

theorem Condition.tells_of_plain {condition : Condition} (plain : condition.pattern? = none)
    (value : Value) : condition.tells value = true := by
  cases condition with
  | like _ | ilike _ => cases plain
  | _ => rfl

theorem Condition.tells_of_printable {condition : Condition} {value : Value}
    (sought : ∀ pattern ∈ condition.pattern?, pattern.isPrintable = true)
    (printable : value.isPrintable = true) : condition.tells value = true := by
  cases condition with
  | like pattern => simp [tells, sought pattern rfl, printable]
  | ilike pattern => simp [tells, sought pattern rfl, printable]
  | _ => rfl

namespace Spec

/-! ## Specifications -/

/-- The value of a column, null when it is missing. -/
def cellOf (record : Record) (column : String) : Value := (Fields.get? record column).getD .null

theorem selects_cons (column : String) (condition : Condition) (spec : Spec) (record : Record) :
    selects ((column, condition) :: spec) record =
      (condition.holds (cellOf record column) (Fields.has record column) &&
        selects spec record) := rfl

/-- Can all conditions be tested on the cells of a record? -/
def Tells (spec : Spec) (record : Record) : Prop :=
  ∀ entry ∈ spec, entry.2.tells (cellOf record entry.1) = true

instance (spec : Spec) (record : Record) : Decidable (spec.Tells record) :=
  inferInstanceAs (Decidable (∀ _ ∈ _, _))

theorem accepts_cons (column : String) (condition : Condition) (spec : Spec) (record : Record) :
    accepts (.object record) ((column, condition) :: spec) = (do
      if ← condition.test (cellOf record column) (Fields.has record column)
      then accepts (.object record) spec else return false) := rfl

section Concrete

variable {spec : Spec} (concrete : spec.IsConcrete) {record : Record}

include concrete

/-- A record on which all conditions can be tested gets an answer. -/
theorem accepts_object (tells : spec.Tells record) :
    spec.accepts (.object record) = .ok (spec.selects record) := by
  induction spec with
  | nil => rfl
  | cons entry spec ih =>
      rcases entry with ⟨column, condition⟩
      rcases List.forall_mem_cons.1 concrete with ⟨first, others⟩
      rcases List.forall_mem_cons.1 tells with ⟨told, rest⟩
      rw [accepts_cons, Condition.test_of_tells first told, ih others rest, selects_cons]
      cases condition.holds (cellOf record column) (Fields.has record column) <;> rfl

/-- Whatever gets an answer gets that one, also where the answer comes before a condition that cannot be
tested. -/
theorem eq_selects_of_accepts {answer : Bool} (answered : spec.accepts (.object record) = .ok answer) :
    answer = spec.selects record := by
  induction spec with
  | nil =>
      cases answered
      rfl
  | cons entry spec ih =>
      rcases entry with ⟨column, condition⟩
      rcases List.forall_mem_cons.1 concrete with ⟨first, others⟩
      rw [accepts_cons] at answered
      rcases bind_eq_ok_iff.1 answered with ⟨tested, told, answered⟩
      rw [Condition.test_of_isConcrete first] at told
      split at told
      · cases told
        rw [selects_cons]
        cases holds : condition.holds (cellOf record column) (Fields.has record column) with
        | true =>
            rw [holds] at answered
            exact ih others answered
        | false =>
            rw [holds] at answered
            cases answered
            rfl
      · cases told

/-- Keeping a record agrees with a specification: it is kept just when it is accepted, and there is an
answer where all conditions can be tested. -/
structure Agrees (spec : Spec) (record : Record) (kept : Prop) : Prop where
  answered : spec.Tells record → ∃ accepted, spec.accepts (.object record) = .ok accepted
  kept_iff : ∀ accepted, spec.accepts (.object record) = .ok accepted → (kept ↔ accepted = true)

theorem agrees_of_selects {kept : Prop} (same : kept ↔ spec.selects record = true) :
    spec.Agrees record kept where
  answered := fun tells => ⟨_, accepts_object concrete tells⟩
  kept_iff := by
    intro accepted answered
    rw [same, eq_selects_of_accepts concrete answered]

end Concrete

/-- Where the patterns and the cells of a record have texts, all conditions can be tested. -/
theorem Tells.of_printable {spec : Spec} {record : Record}
    (sought : ∀ entry ∈ spec, ∀ pattern ∈ entry.2.pattern?, pattern.isPrintable = true)
    (printable : (Value.object record).isPrintable = true) : spec.Tells record := by
  intro entry member
  refine Condition.tells_of_printable (sought entry member) ?_
  unfold cellOf
  cases found : Fields.get? record entry.1 with
  | none => rfl
  | some value => exact Value.isPrintable_of_mem printable (Fields.mem_of_get? found)

end Spec

end DataGateway
