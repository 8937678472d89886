import DataGateway.Proofs.Value.Comparison
import DataGateway.Value.Key
import Mathlib.Logic.Basic

/-!
# Equality of keys

Two keys are one exactly when they have one form, so equality of keys is an equivalence.

* `Value.form` — what makes a key the thing that it is;
* `Value.same_iff_form_of_isPlain` — sameness with a value that has no inner structure;
* `Value.same_iff_form` — sameness of keys is equality of forms;
* `Key.ofText_beq` — keys of texts are one when the texts are.
-/

namespace DataGateway

/-- What makes a key the thing that it is. Lists and objects are no keys. -/
inductive Form
  | null
  | number (place : Quantity)
  | indefinite (origin : Nat)
  | text (s : String)
  | octets (bytes : List UInt8)
  | tuple (items : List Form)
  | thing (kind : EntityKind) (mark : Nat)
  | condition (operator : String) (mark : Nat) (members : List (String × Form))
  | unfit

namespace Value

/-! ## Forms -/

mutual

/-- The form of a value. -/
def form : Value → Form
  | .null => .null
  | .bool b => .number (.ofInt (if b then 1 else 0))
  | .int n => .number (.ofInt n)
  | .float (.nan origin) => .indefinite origin
  | .float x => .number (.ofBinary64 x)
  | .text s => .text s
  | .octets bytes => .octets bytes
  | .tuple items => .tuple (itemForms items)
  | .entity (.condition operator) mark members => .condition operator mark (memberForms members)
  | .entity kind mark _ => .thing kind mark
  | .list _ | .object _ => .unfit

/-- The forms of items. -/
def itemForms : List Value → List Form
  | [] => []
  | item :: rest => form item :: itemForms rest

/-- The members of a condition with their forms. -/
def memberForms : List (String × Value) → List (String × Form)
  | [] => []
  | (name, v) :: rest => (name, form v) :: memberForms rest

end

theorem relate_eq_same_iff {x y : Quantity} :
    x.relate y = .same ↔ x = y ∧ x ≠ .indefinite := by
  cases x <;> cases y <;> simp [Quantity.relate, Relation.ofOrder]
  rename_i m n
  constructor
  · intro h
    split at h
    · cases h
    · split at h
      · assumption
      · cases h
  · rintro rfl
    simp

/-! ## Values without inner structure -/

theorem plainSame_of_place {a b : Value} {x : Quantity} (place : a.quantity? = some x) :
    a.plainSame b = true ↔ b.quantity? = some x ∧ x ≠ .indefinite := by
  unfold plainSame
  rw [place]
  cases other : b.quantity? with
  | none =>
      cases a with
      | bool _ => cases b <;> simp
      | int _ => cases b <;> simp
      | float _ => cases b <;> simp
      | _ => cases place
  | some y =>
      simp only [beq_iff_eq, relate_eq_same_iff, Option.some.injEq]
      exact ⟨fun h => ⟨h.1.symm, h.2⟩, fun h => ⟨h.1.symm, h.2⟩⟩

theorem form_of_place {v : Value} {x : Quantity} (place : v.quantity? = some x)
    (definite : x ≠ .indefinite) : v.form = .number x := by
  cases v with
  | bool b =>
      cases place
      rfl
  | int n =>
      cases place
      rfl
  | float f =>
      cases place
      cases f with
      | nan origin => exact absurd rfl definite
      | _ => rfl
  | _ => cases place

theorem place_of_form {v : Value} {x : Quantity} (number : v.form = .number x) :
    v.quantity? = some x ∧ x ≠ .indefinite := by
  cases v with
  | bool b =>
      cases number
      exact ⟨rfl, nofun⟩
  | int n =>
      cases number
      exact ⟨rfl, nofun⟩
  | float f =>
      cases f with
      | nan origin => cases number
      | infinity negative =>
          cases number
          cases negative <;> exact ⟨rfl, by simp [Quantity.ofBinary64]⟩
      | finite negative magnitude =>
          cases number
          exact ⟨rfl, by simp [Quantity.ofBinary64]⟩
  | entity kind _ _ => cases kind <;> cases number
  | _ => cases number

/-- Numbers of all kinds are one when they stand in one place. -/
theorem plainSame_iff_of_number {a b : Value} {x : Quantity} (number : a.form = .number x) :
    a.plainSame b = true ↔ a.form = b.form := by
  rcases place_of_form number with ⟨place, definite⟩
  rw [plainSame_of_place place, number]
  constructor
  · intro h
    exact (form_of_place h.1 definite).symm
  · intro h
    exact ⟨(place_of_form h.symm).1, definite⟩

theorem same_iff_form_of_number {a b : Value} {x : Quantity} (number : a.form = .number x) :
    a.same b = true ↔ a.form = b.form := by
  -- a number is neither a tuple nor a condition, so only its place is looked at
  have plain : a.same b = a.plainSame b := by
    cases a with
    | float f =>
        cases f with
        | nan origin => cases number
        | _ => simp [same]
    | entity kind _ _ => cases kind <;> cases number
    | bool _ => simp [same]
    | int _ => simp [same]
    | _ => cases number
  rw [plain]
  exact plainSame_iff_of_number number

/-- Is there nothing inside the value that is looked at to compare it? -/
def isPlain : Value → Bool
  | .list _ | .tuple _ | .object _ | .entity (.condition _) _ _ => false
  | _ => true

/-- A value without inner structure is the same thing as all values of its form, and no others. -/
theorem same_iff_form_of_isPlain {a : Value} (plain : a.isPlain = true) (b : Value) :
    a.same b = true ↔ a.form = b.form := by
  cases a with
  | list items => cases plain
  | tuple items => cases plain
  | object fields => cases plain
  | bool b =>
      have number : (Value.bool b).form = .number _ := rfl
      exact same_iff_form_of_number number
  | int n =>
      have number : (Value.int n).form = .number _ := rfl
      exact same_iff_form_of_number number
  | float x =>
      cases x with
      | nan origin =>
          cases b with
          | float y => cases y <;> simp [same, form]
          | entity kind _ _ => cases kind <;> simp [same, form]
          | _ => simp [same, form]
      | infinity negative =>
          have number : (Value.float (.infinity negative)).form = .number _ := rfl
          exact same_iff_form_of_number number
      | finite negative magnitude =>
          have number : (Value.float (.finite negative magnitude)).form = .number _ := rfl
          exact same_iff_form_of_number number
  | entity kind mark members =>
      cases kind with
      | condition operator => cases plain
      | _ =>
          cases b with
          | entity other _ _ => cases other <;> simp [same, plainSame, quantity?, whole?, form]
          | float y => cases y <;> simp [same, plainSame, quantity?, whole?, form]
          | _ => simp [same, plainSame, quantity?, whole?, form]
  | _ =>
      cases b with
      | entity kind _ _ => cases kind <;> simp [same, plainSame, quantity?, whole?, form]
      | float y => cases y <;> simp [same, plainSame, quantity?, whole?, form]
      | _ => simp [same, plainSame, quantity?, whole?, form]

/-! ## Keys of all kinds -/

theorem unhashableItem?_cons {v : Value} {rest : List Value}
    (h : unhashableItem? (v :: rest) = none) :
    v.unhashablePart? = none ∧ unhashableItem? rest = none := by
  unfold unhashableItem? at h
  split at h
  · cases h
  · rename_i part
    exact ⟨part, h⟩

theorem unhashableMember?_cons {name : String} {v : Value} {rest : List (String × Value)}
    (h : unhashableMember? ((name, v) :: rest) = none) :
    v.unhashablePart? = none ∧ unhashableMember? rest = none := by
  unfold unhashableMember? at h
  split at h
  · cases h
  · rename_i part
    exact ⟨part, h⟩

mutual

/-- Two keys are the same thing exactly when they have one form. -/
theorem same_iff_form (a b : Value) (ha : a.unhashablePart? = none) (hb : b.unhashablePart? = none) :
    a.same b = true ↔ a.form = b.form := by
  cases a with
  | list items => cases ha
  | object fields => cases ha
  | tuple items =>
      cases b with
      | tuple others =>
          have parts := sameAll_iff_forms items others ha hb
          simpa [same, form] using parts
      | float y => cases y <;> simp [same, form]
      | entity kind _ _ => cases kind <;> simp [same, form]
      | _ => simp [same, form]
  | entity kind mark members =>
      cases kind with
      | condition operator =>
          cases b with
          | entity other _ others =>
              cases other with
              | condition _ =>
                  have parts := sameMembers_iff_forms members others ha hb
                  simp [same, form, parts, and_assoc]
              | _ => simp [same, form]
          | float y => cases y <;> simp [same, form]
          | _ => simp [same, form]
      | _ => exact same_iff_form_of_isPlain rfl b
  | _ => exact same_iff_form_of_isPlain rfl b

theorem sameAll_iff_forms (xs ys : List Value) (hx : unhashableItem? xs = none)
    (hy : unhashableItem? ys = none) : sameAll xs ys = true ↔ itemForms xs = itemForms ys := by
  cases xs with
  | nil => cases ys <;> simp [sameAll, itemForms]
  | cons x xs =>
      cases ys with
      | nil => simp [sameAll, itemForms]
      | cons y ys =>
          rcases unhashableItem?_cons hx with ⟨fitx, restx⟩
          rcases unhashableItem?_cons hy with ⟨fity, resty⟩
          have first := same_iff_form x y fitx fity
          have others := sameAll_iff_forms xs ys restx resty
          simp [sameAll, itemForms, first, others]

theorem sameMembers_iff_forms (xs ys : List (String × Value)) (hx : unhashableMember? xs = none)
    (hy : unhashableMember? ys = none) :
    sameMembers xs ys = true ↔ memberForms xs = memberForms ys := by
  cases xs with
  | nil => cases ys <;> simp [sameMembers, memberForms]
  | cons x xs =>
      rcases x with ⟨name, v⟩
      cases ys with
      | nil => simp [sameMembers, memberForms]
      | cons y ys =>
          rcases y with ⟨other, w⟩
          rcases unhashableMember?_cons hx with ⟨fitv, restx⟩
          rcases unhashableMember?_cons hy with ⟨fitw, resty⟩
          have first := same_iff_form v w fitv fitw
          have others := sameMembers_iff_forms xs ys restx resty
          simp [sameMembers, memberForms, first, others]

end

end Value

/-! ## Keys -/

namespace Key

theorem beq_iff_form {a b : Key} : (a == b) = true ↔ a.value.form = b.value.form :=
  Value.same_iff_form a.value b.value a.hashable b.hashable

/-- Equality of keys is an equivalence. -/
instance : EquivBEq Key where
  rfl := beq_iff_form.2 rfl
  symm h := beq_iff_form.2 (beq_iff_form.1 h).symm
  trans h k := beq_iff_form.2 ((beq_iff_form.1 h).trans (beq_iff_form.1 k))

theorem ofText_beq (s t : String) : (ofText s == ofText t) = (s == t) := by
  rw [Bool.eq_iff_iff, beq_iff_form, beq_iff_eq]
  simp [ofText, Value.form]

/-- Only a text is one key with a text. -/
theorem ofText_beq_iff {s : String} {key : Key} : (ofText s == key) = true ↔ key = ofText s := by
  rw [BEq.comm]
  constructor
  · intro same
    have text : key.value = .text s := Value.same_text_iff.1 same
    rcases key with ⟨value, hashable⟩
    cases text
    rfl
  · rintro rfl
    exact BEq.rfl

end Key

end DataGateway
