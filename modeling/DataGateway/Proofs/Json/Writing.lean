import DataGateway.Proofs.Fields
import DataGateway.Proofs.Json.RoundTrip
import DataGateway.Proofs.Value.Print

/-!
# Values that can be written

A value has a document unless a whole number in it has too many digits, lists and objects are too deep
inside each other, or an entity in it has no text. Whatever can be written can be read again, and what
is read then can be written again.

* `Writable` — a value has a document;
* `requireItems_iff`, `requireFields_iff` — a list or an object can be written when its parts can;
* `requireWritable_mono`, `isPrintable_of_requireWritable` — what can be written can be written further
  out, and has a text;
* `Writable.representable`, `Writable.normalize` — what is written is read, and can be written again;
* `copy_eq_ok_iff`, `writable_of_objectOf` — copies, and objects with values under keys.
-/

namespace DataGateway.Json

variable {levels : Nat} {v : Value} {items : List Value} {fields : Record}

/-! ## Parts -/

/-- Can a value be written? -/
def Writable (v : Value) : Prop := requireWritable levelLimit v = .ok ()

instance (v : Value) : Decidable (Writable v) :=
  match checked : requireWritable levelLimit v with
  | .ok () => isTrue checked
  | .error _ => isFalse fun written => nomatch checked.symm.trans written

theorem requireItems_iff :
    requireItems levels items = .ok () ↔ ∀ item ∈ items, requireWritable levels item = .ok () := by
  induction items with
  | nil => simp [requireItems]
  | cons item items ih =>
      rw [requireItems, check_eq_ok_iff, List.forall_mem_cons, ih]

theorem requireFields_iff :
    requireFields levels fields = .ok () ↔
      ∀ field ∈ fields, requireWritable levels field.2 = .ok () := by
  induction fields with
  | nil => simp [requireFields]
  | cons field fields ih =>
      rw [requireFields, check_eq_ok_iff, List.forall_mem_cons, ih]

mutual

/-- What can be written inside of others can be written further out. -/
theorem requireWritable_mono {inner outer : Nat} {v : Value} (further : inner ≤ outer)
    (written : requireWritable inner v = .ok ()) : requireWritable outer v = .ok () := by
  cases v with
  | list items =>
      cases inner with
      | zero => cases written
      | succ inner =>
          cases outer with
          | zero => exact absurd further (Nat.not_succ_le_zero inner)
          | succ outer => exact requireItems_mono (Nat.le_of_succ_le_succ further) written
  | tuple items =>
      cases inner with
      | zero => cases written
      | succ inner =>
          cases outer with
          | zero => exact absurd further (Nat.not_succ_le_zero inner)
          | succ outer => exact requireItems_mono (Nat.le_of_succ_le_succ further) written
  | object fields =>
      cases inner with
      | zero => cases written
      | succ inner =>
          cases outer with
          | zero => exact absurd further (Nat.not_succ_le_zero inner)
          | succ outer => exact requireFields_mono (Nat.le_of_succ_le_succ further) written
  | _ => exact written

theorem requireItems_mono {inner outer : Nat} {items : List Value} (further : inner ≤ outer)
    (written : requireItems inner items = .ok ()) : requireItems outer items = .ok () := by
  cases items with
  | nil => rfl
  | cons item items =>
      rcases check_eq_ok_iff.1 written with ⟨first, rest⟩
      exact check_eq_ok_iff.2 ⟨requireWritable_mono further first, requireItems_mono further rest⟩

theorem requireFields_mono {inner outer : Nat} {fields : Record} (further : inner ≤ outer)
    (written : requireFields inner fields = .ok ()) : requireFields outer fields = .ok () := by
  cases fields with
  | nil => rfl
  | cons field fields =>
      rcases check_eq_ok_iff.1 written with ⟨first, rest⟩
      exact check_eq_ok_iff.2 ⟨requireWritable_mono further first, requireFields_mono further rest⟩

end

mutual

/-- What can be written has a text. -/
theorem isPrintable_of_requireWritable {levels : Nat} {v : Value}
    (written : requireWritable levels v = .ok ()) : v.isPrintable = true := by
  cases v with
  | int n => exact Value.requirePrintable_eq_ok_iff.1 written
  | list items =>
      cases levels with
      | zero => cases written
      | succ levels => exact itemsPrintable_of_requireItems written
  | tuple items =>
      cases levels with
      | zero => cases written
      | succ levels => exact itemsPrintable_of_requireItems written
  | object fields =>
      cases levels with
      | zero => cases written
      | succ levels => exact fieldsPrintable_of_requireFields written
  | entity kind mark fields => exact Value.requirePrintable_eq_ok_iff.1 written
  | _ => rfl

theorem itemsPrintable_of_requireItems {levels : Nat} {items : List Value}
    (written : requireItems levels items = .ok ()) : Value.itemsPrintable items = true := by
  cases items with
  | nil => rfl
  | cons item items =>
      rcases check_eq_ok_iff.1 written with ⟨first, rest⟩
      exact Bool.and_eq_true_iff.2
        ⟨isPrintable_of_requireWritable first, itemsPrintable_of_requireItems rest⟩

theorem fieldsPrintable_of_requireFields {levels : Nat} {fields : Record}
    (written : requireFields levels fields = .ok ()) : Value.fieldsPrintable fields = true := by
  cases fields with
  | nil => rfl
  | cons field fields =>
      rcases check_eq_ok_iff.1 written with ⟨first, rest⟩
      exact Bool.and_eq_true_iff.2
        ⟨isPrintable_of_requireWritable first, fieldsPrintable_of_requireFields rest⟩

end

/-! ## Reading again -/

mutual

/-- What can be written is not too large for a reader. -/
theorem fits_of_requireWritable {levels : Nat} {v : Value}
    (written : requireWritable levels v = .ok ()) : fits levels v = true := by
  cases v with
  | int n => exact Value.requirePrintable_eq_ok_iff.1 written
  | list items =>
      cases levels with
      | zero => cases written
      | succ levels => exact itemsFit_of_requireItems written
  | tuple items =>
      cases levels with
      | zero => cases written
      | succ levels => exact itemsFit_of_requireItems written
  | object fields =>
      cases levels with
      | zero => cases written
      | succ levels => exact fieldsFit_of_requireFields written
  | _ => rfl

theorem itemsFit_of_requireItems {levels : Nat} {items : List Value}
    (written : requireItems levels items = .ok ()) : itemsFit levels items = true := by
  cases items with
  | nil => rfl
  | cons item items =>
      rcases check_eq_ok_iff.1 written with ⟨first, rest⟩
      exact Bool.and_eq_true_iff.2 ⟨fits_of_requireWritable first, itemsFit_of_requireItems rest⟩

theorem fieldsFit_of_requireFields {levels : Nat} {fields : Record}
    (written : requireFields levels fields = .ok ()) : fieldsFit levels fields = true := by
  cases fields with
  | nil => rfl
  | cons field fields =>
      rcases check_eq_ok_iff.1 written with ⟨first, rest⟩
      exact Bool.and_eq_true_iff.2 ⟨fits_of_requireWritable first, fieldsFit_of_requireFields rest⟩

end

theorem Writable.representable (writable : Writable v) : Representable v :=
  fits_of_requireWritable writable

mutual

/-- What is read again can be written again. -/
theorem requireWritable_normalize {levels : Nat} {v : Value}
    (written : requireWritable levels v = .ok ()) : requireWritable levels (normalize v) = .ok () := by
  cases v with
  | float x => cases x <;> rfl
  | list items =>
      cases levels with
      | zero => cases written
      | succ levels => exact requireItems_normalize written
  | tuple items =>
      cases levels with
      | zero => cases written
      | succ levels => exact requireItems_normalize written
  | object fields =>
      cases levels with
      | zero => cases written
      | succ levels =>
          have each := requireFields_iff.1 (requireFields_normalize written)
          exact requireFields_iff.2 fun field member => each field (Fields.mem_ofPairs member)
  | octets bytes => rfl
  | entity kind mark fields => rfl
  | _ => exact written

theorem requireItems_normalize {levels : Nat} {items : List Value}
    (written : requireItems levels items = .ok ()) :
    requireItems levels (normalizeItems items) = .ok () := by
  cases items with
  | nil => rfl
  | cons item items =>
      rcases check_eq_ok_iff.1 written with ⟨first, rest⟩
      exact check_eq_ok_iff.2 ⟨requireWritable_normalize first, requireItems_normalize rest⟩

theorem requireFields_normalize {levels : Nat} {fields : Record}
    (written : requireFields levels fields = .ok ()) :
    requireFields levels (normalizeFields fields) = .ok () := by
  cases fields with
  | nil => rfl
  | cons field fields =>
      rcases check_eq_ok_iff.1 written with ⟨first, rest⟩
      exact check_eq_ok_iff.2 ⟨requireWritable_normalize first, requireFields_normalize rest⟩

end

theorem Writable.normalize (writable : Writable v) : Writable (normalize v) :=
  requireWritable_normalize writable

/-! ## Copies and objects -/

theorem copy_eq_ok_iff {w : Value} : copy v = .ok w ↔ Writable v ∧ w = normalize v := by
  rw [copy, check_eq_ok_iff]
  exact and_congr_right fun _ => ⟨fun same => (Except.ok.inj same).symm, congrArg Except.ok ∘ Eq.symm⟩

theorem copy_of_writable (writable : Writable v) : copy v = .ok (normalize v) :=
  copy_eq_ok_iff.2 ⟨writable, rfl⟩

/-- The fields that values under keys make up can be written. -/
theorem requireFields_of_objectOf {pairs : List (Key × Value)}
    (written : objectOf pairs = .ok fields) : requireFields (levelLimit - 1) fields = .ok () := by
  induction pairs generalizing fields with
  | nil =>
      cases written
      rfl
  | cons pair pairs ih =>
      rcases bind_eq_ok_iff.1 written with ⟨name, _, written⟩
      rcases check_eq_ok_iff.1 written with ⟨first, written⟩
      rcases bind_eq_ok_iff.1 written with ⟨others, rest, written⟩
      cases written
      exact check_eq_ok_iff.2 ⟨first, ih rest⟩

theorem writable_of_objectOf {pairs : List (Key × Value)} (written : objectOf pairs = .ok fields) :
    Writable (.object fields) := requireFields_of_objectOf written

end DataGateway.Json
