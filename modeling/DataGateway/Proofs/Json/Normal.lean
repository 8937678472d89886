import DataGateway.Json.Encode
import DataGateway.Proofs.Fields

/-!
# The normal form of JSON

What a document says again is said again by its own document.

* `normalizeItems_eq_map`, `normalizeFields_eq_map` — the normal form goes item by item, and field by
  field before names are made distinct;
* `normalize_normalize` — the normal form is its own normal form;
* `normalize_object` — objects with distinct names keep their fields and the order of them;
* `normalize_object_iff`, `map_normalize_iff` — which objects and lists are their own normal form.
-/

namespace DataGateway.Json

/-! ## Field by field -/

theorem normalizeFields_eq_map (fields : List (String × Value)) :
    normalizeFields fields = Fields.mapValues normalize fields := by
  induction fields with
  | nil => rfl
  | cons field fields ih =>
      rcases field with ⟨name, v⟩
      rw [normalizeFields, ih]
      rfl

theorem normalizeItems_eq_map (items : List Value) : normalizeItems items = items.map normalize := by
  induction items with
  | nil => rfl
  | cons item items ih => rw [normalizeItems, ih, List.map_cons]

theorem names_normalizeFields (fields : Record) :
    Fields.names (normalizeFields fields) = fields.names := by
  simp [normalizeFields_eq_map, Fields.mapValues, Fields.names, Function.comp_def]

theorem mem_normalizeFields {fields : Record} {name : String} {v : Value} :
    (name, v) ∈ normalizeFields fields ↔ ∃ u, (name, u) ∈ fields ∧ normalize u = v := by
  simp [normalizeFields_eq_map, Fields.mapValues]

/-- Objects with distinct names keep their fields and the order of them. -/
theorem normalize_object {fields : Record} (distinct : fields.names.Nodup) :
    normalize (.object fields) = .object (Fields.mapValues normalize fields) := by
  have apart : (Fields.names (normalizeFields fields)).Nodup := by
    rwa [names_normalizeFields]
  rw [normalize, Fields.ofPairs_of_nodup apart, normalizeFields_eq_map]

/-! ## Twice -/

theorem normalizeFields_of_normal {fields : Record}
    (normal : ∀ field ∈ fields, normalize field.2 = field.2) : normalizeFields fields = fields := by
  rw [normalizeFields_eq_map, Fields.mapValues]
  refine (List.map_congr_left fun field hf => ?_).trans (List.map_id fields)
  exact Prod.ext rfl (normal field hf)

mutual

/-- The normal form is its own normal form. -/
theorem normalize_normalize (v : Value) : normalize (normalize v) = normalize v := by
  cases v with
  | float x => cases x <;> rfl
  | list items =>
      have again := normalizeItems_normalizeItems items
      simp only [normalize, again]
  | tuple items =>
      have again := normalizeItems_normalizeItems items
      simp only [normalize, again]
  | object fields =>
      -- making the names distinct drops fields and changes none of them
      have normal : ∀ field ∈ Fields.ofPairs (normalizeFields fields),
          normalize field.2 = field.2 := by
        intro field hf
        exact normal_of_mem_normalizeFields fields field (Fields.mem_ofPairs hf)
      simp only [normalize, normalizeFields_of_normal normal,
        Fields.ofPairs_of_nodup Fields.nodup_names_ofPairs]
  | _ => rfl

theorem normalizeItems_normalizeItems (items : List Value) :
    normalizeItems (normalizeItems items) = normalizeItems items := by
  cases items with
  | nil => rfl
  | cons item items =>
      have first := normalize_normalize item
      have others := normalizeItems_normalizeItems items
      simp only [normalizeItems, first, others]

theorem normal_of_mem_normalizeFields (fields : List (String × Value)) :
    ∀ field ∈ normalizeFields fields, normalize field.2 = field.2 := by
  cases fields with
  | nil =>
      intro field hf
      cases hf
  | cons first fields =>
      rcases first with ⟨name, v⟩
      have here := normalize_normalize v
      have others := normal_of_mem_normalizeFields fields
      intro field hf
      rcases List.mem_cons.1 hf with rfl | hf
      · exact here
      · exact others field hf

end

/-! ## Values that are their own normal form -/

/-- An object is its own normal form when its names are distinct and its values are so. -/
theorem normalize_object_iff {fields : Record} :
    normalize (.object fields) = .object fields ↔
      fields.names.Nodup ∧ ∀ field ∈ fields, normalize field.2 = field.2 := by
  constructor
  · intro normal
    rw [normalize, Value.object.injEq] at normal
    refine ⟨?_, fun field member => ?_⟩
    · rw [← normal]
      exact Fields.nodup_names_ofPairs
    · rw [← normal] at member
      exact normal_of_mem_normalizeFields fields field (Fields.mem_ofPairs member)
  · rintro ⟨distinct, normal⟩
    rw [normalize, normalizeFields_of_normal normal, Fields.ofPairs_of_nodup distinct]

theorem normalize_set {fields : Record} {name : String} {v : Value}
    (normal : normalize (.object fields) = .object fields) (same : normalize v = v) :
    normalize (.object (Fields.set fields name v)) = .object (Fields.set fields name v) := by
  rcases normalize_object_iff.1 normal with ⟨distinct, values⟩
  refine normalize_object_iff.2 ⟨Fields.nodup_names_set distinct, fun field member => ?_⟩
  rcases Fields.value_of_mem_set member with old | new
  · exact values field old
  · rw [new, same]

theorem normalize_get? {fields : Record} (normal : normalize (.object fields) = .object fields)
    (name : String) : normalize ((Fields.get? fields name).getD .null) =
      (Fields.get? fields name).getD .null := by
  cases found : Fields.get? fields name with
  | none => rfl
  | some v => exact (normalize_object_iff.1 normal).2 _ (Fields.mem_of_get? found)

theorem map_normalize_iff {rows : List Value} :
    rows.map normalize = rows ↔ ∀ row ∈ rows, normalize row = row := by
  have each := List.map_inj_left (l := rows) (f := normalize) (g := id)
  rwa [List.map_id] at each

end DataGateway.Json
