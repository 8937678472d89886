import DataGateway.Proofs.Fields
import DataGateway.Proofs.Value.Key
import Mathlib.Data.List.Perm.Subperm

/-!
# Equality as an equivalence

Values of any kind, lists and objects among them, are told apart by what is inside. As long as no
object names a field twice, being the same thing is an equivalence, and so is equality but for the
indefinite number, which is equal to nothing.

* `Value.WellNamed` — every object in a value names its fields once;
* `Value.same_list_iff`, …, `Value.same_object_iff` — what is the same thing as a value of each kind;
* `Value.WellNamed.same_refl`, `Value.WellNamed.same_symm`, `Value.WellNamed.same_trans`;
* `Value.WellNamed.looseEq_refl`, `Value.WellNamed.looseEq_symm`, `Value.WellNamed.looseEq_trans`.
-/

namespace DataGateway

/-- Is the form that of a value with nothing inside? -/
def Form.isPlain : Form → Bool
  | .tuple _ | .condition .. | .unfit => false
  | _ => true

namespace Value

variable {a b c : Value}

/-! ## Parts -/

theorem sameAll_iff {xs ys : List Value} :
    sameAll xs ys = true ↔ List.Forall₂ (fun x y => x.same y = true) xs ys := by
  induction xs generalizing ys with
  | nil => cases ys <;> simp [sameAll]
  | cons x xs ih => cases ys <;> simp [sameAll, ih]

theorem sameMembers_iff {xs ys : List (String × Value)} : sameMembers xs ys = true ↔
    List.Forall₂ (fun x y => x.1 = y.1 ∧ x.2.same y.2 = true) xs ys := by
  induction xs generalizing ys with
  | nil => cases ys <;> simp [sameMembers]
  | cons x xs ih =>
      rcases x with ⟨name, v⟩
      rcases ys with _ | ⟨⟨other, w⟩, ys⟩
      · simp [sameMembers]
      · simp [sameMembers, ih]

theorem sameFields_iff {xs ys : Record} : sameFields xs ys = true ↔
    ∀ entry ∈ xs, ∃ w, Fields.get? ys entry.1 = some w ∧ entry.2.same w = true := by
  induction xs with
  | nil => simp [sameFields]
  | cons x xs ih =>
      rcases x with ⟨name, v⟩
      rw [sameFields, Bool.and_eq_true, ih, List.forall_mem_cons]
      refine and_congr_left fun _ => ?_
      rw [← Fields.get?]
      cases Fields.get? ys name <;> simp

/-- Related parts are related the other way round, if each of the first ones is. -/
theorem forall₂_turn {α : Type} {R : α → α → Prop} {good : α → Prop} {xs ys : List α}
    (turn : ∀ x ∈ xs, ∀ y, good y → R x y → R y x) (fit : ∀ y ∈ ys, good y)
    (related : List.Forall₂ R xs ys) : List.Forall₂ R ys xs := by
  induction related with
  | nil => exact .nil
  | cons step _ ih =>
      rw [List.forall_mem_cons] at turn fit
      exact .cons (turn.1 _ fit.1 step) (ih turn.2 fit.2)

/-- So they are through parts in the middle. -/
theorem forall₂_chain {α : Type} {R : α → α → Prop} {xs ys zs : List α}
    (chain : ∀ x ∈ xs, ∀ y z, R x y → R y z → R x z) (first : List.Forall₂ R xs ys)
    (second : List.Forall₂ R ys zs) : List.Forall₂ R xs zs := by
  induction first generalizing zs with
  | nil => exact second
  | cons step _ ih =>
      rw [List.forall_mem_cons] at chain
      cases second with
      | cons next rest => exact .cons (chain.1 _ _ step next) (ih chain.2 rest)

/-- Names that are told apart are the same names when they are among as many others. -/
theorem mem_names_of_length {xs ys : Record} (distinct : (Fields.names xs).Nodup)
    (within : ∀ entry ∈ xs, entry.1 ∈ Fields.names ys) (length : xs.length = ys.length)
    {name : String} (member : name ∈ Fields.names ys) : name ∈ Fields.names xs := by
  have subset : Fields.names xs ⊆ Fields.names ys := by
    intro n there
    rcases List.mem_map.1 there with ⟨entry, here, rfl⟩
    exact within entry here
  have many : (Fields.names ys).length ≤ (Fields.names xs).length := by simp [Fields.names, length]
  exact ((List.Nodup.subperm distinct subset).perm_of_length_le many).mem_iff.2 member

/-! ## Kinds -/

theorem same_list_iff {items : List Value} : (list items).same b = true ↔
    ∃ others, b = .list others ∧ List.Forall₂ (fun x y => x.same y = true) items others := by
  cases b <;> simp [same, sameAll_iff]

theorem same_tuple_iff {items : List Value} : (tuple items).same b = true ↔
    ∃ others, b = .tuple others ∧ List.Forall₂ (fun x y => x.same y = true) items others := by
  cases b <;> simp [same, sameAll_iff]

theorem same_object_iff {fields : Record} : (object fields).same b = true ↔
    ∃ others, b = .object others ∧ fields.length = others.length ∧
      ∀ entry ∈ fields, ∃ w, Fields.get? others entry.1 = some w ∧ entry.2.same w = true := by
  cases b <;> simp [same, sameFields_iff]

theorem same_condition_iff {operator : String} {mark : Nat} {members : Record} :
    (entity (.condition operator) mark members).same b = true ↔
      ∃ others, b = .entity (.condition operator) mark others ∧
        List.Forall₂ (fun x y => x.1 = y.1 ∧ x.2.same y.2 = true) members others := by
  cases b with
  | entity kind _ others =>
      cases kind with
      | condition other =>
          simp [same, sameMembers_iff, and_assoc, @eq_comm _ operator, @eq_comm _ mark]
      | _ => simp [same]
  | _ => simp [same]

theorem isPlain_form (v : Value) : v.form.isPlain = v.isPlain := by
  cases v with
  | float x => cases x <;> rfl
  | entity kind _ _ => cases kind <;> rfl
  | _ => rfl

/-- Only a value with nothing inside has the form of one. -/
theorem isPlain_of_form (plain : a.isPlain = true) (alike : a.form = b.form) : b.isPlain = true := by
  rw [← isPlain_form, ← alike, isPlain_form]
  exact plain

/-- Among values with nothing inside, the form tells which ones are indefinite. -/
theorem isIndefinite_iff_form : a.isIndefinite = true ↔ ∃ origin, a.form = .indefinite origin := by
  cases a with
  | float x => cases x <;> simp [isIndefinite, form]
  | entity kind _ _ => cases kind <;> simp [isIndefinite, form]
  | _ => simp [isIndefinite, form]

/-! ## Names -/

/-- Does every object in a value name its fields once? -/
inductive WellNamed : Value → Prop
  | plain {v : Value} : v.isPlain = true → WellNamed v
  | list {items : List Value} : (∀ item ∈ items, WellNamed item) → WellNamed (.list items)
  | tuple {items : List Value} : (∀ item ∈ items, WellNamed item) → WellNamed (.tuple items)
  | object {fields : Record} : (Fields.names fields).Nodup →
      (∀ entry ∈ fields, WellNamed entry.2) → WellNamed (.object fields)
  | condition {operator : String} {mark : Nat} {members : Record} :
      (∀ entry ∈ members, WellNamed entry.2) → WellNamed (.entity (.condition operator) mark members)

namespace WellNamed

theorem items {xs : List Value} (named : WellNamed (.list xs)) : ∀ item ∈ xs, WellNamed item := by
  cases named with
  | plain none => cases none
  | list items => exact items

theorem tupleItems {xs : List Value} (named : WellNamed (.tuple xs)) :
    ∀ item ∈ xs, WellNamed item := by
  cases named with
  | plain none => cases none
  | tuple items => exact items

theorem names {fields : Record} (named : WellNamed (.object fields)) :
    (Fields.names fields).Nodup := by
  cases named with
  | plain none => cases none
  | object distinct _ => exact distinct

theorem values {fields : Record} (named : WellNamed (.object fields)) :
    ∀ entry ∈ fields, WellNamed entry.2 := by
  cases named with
  | plain none => cases none
  | object _ values => exact values

theorem members {operator : String} {mark : Nat} {fields : Record}
    (named : WellNamed (.entity (.condition operator) mark fields)) :
    ∀ entry ∈ fields, WellNamed entry.2 := by
  cases named with
  | plain none => cases none
  | condition values => exact values

/-! ## Sameness -/

theorem same_refl (named : WellNamed a) : a.same a = true := by
  induction named with
  | plain nothing => exact (same_iff_form_of_isPlain nothing _).2 rfl
  | list _ ih => exact same_list_iff.2 ⟨_, rfl, List.forall₂_same.2 ih⟩
  | tuple _ ih => exact same_tuple_iff.2 ⟨_, rfl, List.forall₂_same.2 ih⟩
  | object distinct _ ih =>
      refine same_object_iff.2 ⟨_, rfl, rfl, ?_⟩
      intro entry member
      exact ⟨entry.2, Fields.get?_of_mem distinct member, ih entry member⟩
  | condition _ ih =>
      refine same_condition_iff.2 ⟨_, rfl, List.forall₂_same.2 ?_⟩
      exact fun entry member => ⟨rfl, ih entry member⟩

theorem same_symm (first : WellNamed a) (second : WellNamed b) (alike : a.same b = true) :
    b.same a = true := by
  induction first generalizing b with
  | plain nothing =>
      have forms := (same_iff_form_of_isPlain nothing _).1 alike
      exact (same_iff_form_of_isPlain (isPlain_of_form nothing forms) _).2 forms.symm
  | list _ ih =>
      rcases same_list_iff.1 alike with ⟨others, rfl, parts⟩
      have turned := forall₂_turn (fun x member y => ih x member) second.items parts
      exact same_list_iff.2 ⟨_, rfl, turned⟩
  | tuple _ ih =>
      rcases same_tuple_iff.1 alike with ⟨others, rfl, parts⟩
      have turned := forall₂_turn (fun x member y => ih x member) second.tupleItems parts
      exact same_tuple_iff.2 ⟨_, rfl, turned⟩
  | condition _ ih =>
      rcases same_condition_iff.1 alike with ⟨others, rfl, parts⟩
      have turned := forall₂_turn (fun x member y fit related =>
        ⟨related.1.symm, ih x member fit related.2⟩) second.members parts
      exact same_condition_iff.2 ⟨_, rfl, turned⟩
  | @object fields distinct _ ih =>
      rcases same_object_iff.1 alike with ⟨others, rfl, length, found⟩
      refine same_object_iff.2 ⟨_, rfl, length.symm, ?_⟩
      rintro ⟨name, w⟩ member
      -- a name of the second object is one of the first, since these are as many
      have within : ∀ entry ∈ fields, entry.1 ∈ Fields.names others := by
        intro entry there
        rcases found entry there with ⟨v, known, _⟩
        exact Fields.mem_names_iff.2 (by rw [known]; rfl)
      have back := mem_names_of_length distinct within length (List.mem_map_of_mem member)
      rcases List.mem_map.1 back with ⟨⟨_, v⟩, there, rfl⟩
      rcases found _ there with ⟨u, known, related⟩
      have value : u = w := by
        rw [Fields.get?_of_mem second.names member] at known
        exact (Option.some.inj known).symm
      rw [value] at related
      exact ⟨v, Fields.get?_of_mem distinct there, ih _ there (second.values _ member) related⟩

theorem same_trans (named : WellNamed a) (first : a.same b = true) (second : b.same c = true) :
    a.same c = true := by
  induction named generalizing b c with
  | plain nothing =>
      have forms := (same_iff_form_of_isPlain nothing _).1 first
      have rest := (same_iff_form_of_isPlain (isPlain_of_form nothing forms) _).1 second
      exact (same_iff_form_of_isPlain nothing _).2 (forms.trans rest)
  | list _ ih =>
      rcases same_list_iff.1 first with ⟨ys, rfl, one⟩
      rcases same_list_iff.1 second with ⟨zs, rfl, two⟩
      exact same_list_iff.2 ⟨zs, rfl, forall₂_chain (fun x member _ _ => ih x member) one two⟩
  | tuple _ ih =>
      rcases same_tuple_iff.1 first with ⟨ys, rfl, one⟩
      rcases same_tuple_iff.1 second with ⟨zs, rfl, two⟩
      exact same_tuple_iff.2 ⟨zs, rfl, forall₂_chain (fun x member _ _ => ih x member) one two⟩
  | condition _ ih =>
      rcases same_condition_iff.1 first with ⟨ys, rfl, one⟩
      rcases same_condition_iff.1 second with ⟨zs, rfl, two⟩
      have chained := forall₂_chain (fun x member _ _ step next =>
        ⟨step.1.trans next.1, ih x member step.2 next.2⟩) one two
      exact same_condition_iff.2 ⟨zs, rfl, chained⟩
  | object _ _ ih =>
      rcases same_object_iff.1 first with ⟨ys, rfl, few, one⟩
      rcases same_object_iff.1 second with ⟨zs, rfl, many, two⟩
      refine same_object_iff.2 ⟨zs, rfl, few.trans many, ?_⟩
      intro entry member
      rcases one entry member with ⟨w, there, step⟩
      rcases two _ (Fields.mem_of_get? there) with ⟨u, last, next⟩
      exact ⟨u, last, ih entry member step next⟩

/-! ## Equality -/

theorem looseEq_refl (named : WellNamed a) (definite : a.isIndefinite = false) :
    a.looseEq a = true := by
  rw [looseEq, definite, named.same_refl]
  rfl

theorem looseEq_symm (first : WellNamed a) (second : WellNamed b) (equal : a.looseEq b = true) :
    b.looseEq a = true := by
  rw [looseEq, Bool.and_eq_true, Bool.not_eq_true'] at equal ⊢
  rcases equal with ⟨definite, alike⟩
  have turned := first.same_symm second alike
  refine ⟨?_, turned⟩
  -- an indefinite number is the same thing only as an indefinite one
  rw [← Bool.not_eq_true, isIndefinite_iff_form] at definite ⊢
  rintro ⟨origin, indefinite⟩
  have nothing : b.isPlain = true := by
    rw [← isPlain_form, indefinite]
    rfl
  have forms := (same_iff_form_of_isPlain nothing _).1 turned
  exact definite ⟨origin, forms.symm.trans indefinite⟩

theorem looseEq_trans (named : WellNamed a) (first : a.looseEq b = true)
    (second : b.looseEq c = true) : a.looseEq c = true := by
  rw [looseEq, Bool.and_eq_true] at first second ⊢
  exact ⟨first.1, named.same_trans first.2 second.2⟩

end WellNamed

end Value

end DataGateway
