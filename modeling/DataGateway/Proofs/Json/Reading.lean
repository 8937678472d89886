import DataGateway.Json.Decode
import DataGateway.Proofs.Except
import DataGateway.Proofs.Json.Normal

/-!
# What documents say

Whatever a document says is in normal form already: of two fields with one name only the later is
there, and the indefinite number has no origin of its own.

* `normal_of_scan` — the same for each part of a document, by the steps of the reader;
* `normalize_of_decode` — what a document says is its own normal form.
-/

namespace DataGateway.Json

variable {start s rest : List Char} {v : Value}

/-- Does a reader give up for the length of a number or for the depth of the document? -/
def Cause.IsLimit : Cause → Prop
  | .digits _ | .depth _ => True
  | _ => False

/-! ## Atoms -/

/-- Numbers are whole, or of finite size, or beyond all sizes. -/
theorem normal_of_scanNumber {negative : Bool} (read : scanNumber start negative s = .ok (v, rest)) :
    normalize v = v := by
  have definite (d : Decimal) : normalize (.float (d.toBinary64 negative)) =
      .float (d.toBinary64 negative) := by
    unfold Decimal.toBinary64 Binary64.ofRatio
    split_ifs
    · rfl
    · rfl
    · cases Magnitude.round? (d.digits * power 10 d.exponent.toNat) 1 <;> rfl
    · cases Magnitude.round? d.digits (power 10 (-d.exponent).toNat) <;> rfl
  unfold scanNumber at read
  split at read
  · cases read
  · dsimp only at read
    split at read
    · split at read <;> cases read
      rfl
    · cases read
      exact definite _

theorem normal_of_scanAtom (read : scanAtom s = .ok (v, rest)) : normalize v = v := by
  unfold scanAtom at read
  -- the words first, then numbers with a sign and without
  repeat' split at read
  all_goals first | exact normal_of_scanNumber read | (cases read; rfl)

/-! ## Lists and objects -/

theorem normalize_ofPairs {pairs : Record} (normal : ∀ field ∈ pairs, normalize field.2 = field.2) :
    normalize (.object (Fields.ofPairs pairs)) = .object (Fields.ofPairs pairs) := by
  have kept : ∀ field ∈ Fields.ofPairs pairs, normalize field.2 = field.2 :=
    fun field member => normal field (Fields.mem_ofPairs member)
  rw [normalize, normalizeFields_of_normal kept, Fields.ofPairs_of_nodup Fields.nodup_names_ofPairs]

/-- Does every part of a document say something normal, as far as the fuel reaches? -/
structure SaysNormal (fuel : Nat) : Prop where
  value {levels : Nat} {s rest : List Char} {v : Value} :
    scanValue fuel levels s = .ok (v, rest) → normalize v = v
  items {levels : Nat} {s rest : List Char} {items : List Value} :
    scanItems fuel levels s = .ok (items, rest) → normalizeItems items = items
  fields {levels : Nat} {s rest : List Char} {fields : Record} :
    scanFields fuel levels s = .ok (fields, rest) → ∀ field ∈ fields, normalize field.2 = field.2

section Steps

variable {fuel levels : Nat} (normal : SaysNormal fuel)

include normal

theorem SaysNormal.normal_value (read : scanValue (fuel + 1) levels s = .ok (v, rest)) :
    normalize v = v := by
  rw [scanValue.eq_def] at read
  dsimp only at read
  split at read
  · rcases bind_eq_ok_iff.1 read with ⟨_, _, same⟩
    cases same
    rfl
  · split at read
    · cases read
    · split at read
      · cases read
        rfl
      · rcases bind_eq_ok_iff.1 read with ⟨⟨inner, _⟩, scanned, same⟩
        cases same
        rw [normalize, normal.items scanned]
  · split at read
    · cases read
    · split at read
      · cases read
        rfl
      · rcases bind_eq_ok_iff.1 read with ⟨⟨inner, _⟩, scanned, same⟩
        cases same
        exact normalize_ofPairs (normal.fields scanned)
  · exact normal_of_scanAtom read

theorem SaysNormal.normal_items {items : List Value}
    (read : scanItems (fuel + 1) levels s = .ok (items, rest)) : normalizeItems items = items := by
  rw [scanItems.eq_def] at read
  dsimp only at read
  rcases bind_eq_ok_iff.1 read with ⟨⟨first, _⟩, scanned, more⟩
  dsimp only at more
  split at more
  · cases more
    rw [normalizeItems, normal.value scanned]
    rfl
  · rcases bind_eq_ok_iff.1 more with ⟨⟨others, _⟩, later, same⟩
    cases same
    rw [normalizeItems, normal.value scanned, normal.items later]
  · cases more

theorem SaysNormal.normal_fields {fields : Record}
    (read : scanFields (fuel + 1) levels s = .ok (fields, rest)) :
    ∀ field ∈ fields, normalize field.2 = field.2 := by
  rw [scanFields.eq_def] at read
  dsimp only at read
  split at read
  · rcases bind_eq_ok_iff.1 read with ⟨⟨name, _⟩, _, named⟩
    dsimp only at named
    split at named
    · rcases bind_eq_ok_iff.1 named with ⟨⟨inner, _⟩, scanned, more⟩
      dsimp only at more
      split at more
      · cases more
        exact List.forall_mem_singleton.2 (normal.value scanned)
      · rcases bind_eq_ok_iff.1 more with ⟨⟨others, _⟩, later, same⟩
        cases same
        exact List.forall_mem_cons.2 ⟨normal.value scanned, normal.fields later⟩
      · cases more
    · cases named
  · cases read

end Steps

/-- Every part of a document says something normal. -/
theorem normal_of_scan (fuel : Nat) : SaysNormal fuel := by
  -- induction on the fuel, which every part hands on to the parts inside
  induction fuel with
  | zero => exact ⟨nofun, nofun, nofun⟩
  | succ fuel ih => exact ⟨ih.normal_value, ih.normal_items, ih.normal_fields⟩

/-! ## Documents -/

/-- What a document says is its own normal form. -/
theorem normalize_of_decode {document : List Char} (read : decode document = .ok v) :
    normalize v = v := by
  unfold decode at read
  split at read
  · cases read
  · rcases bind_eq_ok_iff.1 read with ⟨⟨inner, rest⟩, scanned, ended⟩
    dsimp only at ended
    split at ended
    · cases ended
      exact (normal_of_scan _).value scanned
    · cases ended

end DataGateway.Json
