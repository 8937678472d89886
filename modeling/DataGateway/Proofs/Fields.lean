import DataGateway.Fields
import Mathlib.Data.List.Nodup

/-!
# Facts about fields

Reading after writing, for names whose equality is an equivalence, and fields with distinct names.

* `get?_set_self`, `get?_set_of_ne` — a write is seen under its own name and under no other;
* `get?_merge` — of two records, the later one counts where it has a value;
* `set_eq_self_iff` — a write changes nothing exactly when the value is there already;
* `ofPairs_of_nodup` — pairs with distinct names are fields as they are.
-/

namespace DataGateway.Fields

section Equivalence

variable {α κ : Type} [BEq κ] {fields : Fields α κ} {k l : κ} {v w : α}

/-! ## Reading after writing -/

theorem get?_cons {entry : κ × α} :
    get? (entry :: fields) k = if k == entry.1 then some entry.2 else get? fields k := by
  rcases entry with ⟨n, v⟩
  simp only [get?, List.lookup_cons]
  split <;> simp [*]

theorem has_eq_true_iff : has fields k = true ↔ ∃ v, get? fields k = some v :=
  Option.isSome_iff_exists

/-- The names say whether a name is there, whatever the values are. -/
theorem has_eq_any_names : has fields k = (names fields).any (k == ·) := by
  induction fields with
  | nil => rfl
  | cons entry fields ih =>
      have read : has (entry :: fields) k =
          (if k == entry.1 then some entry.2 else get? fields k).isSome :=
        congrArg Option.isSome get?_cons
      have later : (get? fields k).isSome = (names fields).any (k == ·) := ih
      cases here : k == entry.1 with
      | true => simp [read, here, names]
      | false => simp [read, here, later, names]

theorem exists_mem_of_get? (found : get? fields k = some v) : ∃ n, (n, v) ∈ fields := by
  induction fields with
  | nil => cases found
  | cons entry fields ih =>
      rcases entry with ⟨n, u⟩
      rw [get?_cons] at found
      split at found
      · cases found
        exact ⟨n, List.mem_cons_self ..⟩
      · rcases ih found with ⟨m, member⟩
        exact ⟨m, List.mem_cons_of_mem _ member⟩

/-- A write adds no value but its own. -/
theorem value_of_mem_set {entry : κ × α} (member : entry ∈ set fields k v) :
    entry ∈ fields ∨ entry.2 = v := by
  induction fields with
  | nil => exact .inr (by rw [List.mem_singleton.1 member])
  | cons first fields ih =>
      rcases first with ⟨n, u⟩
      rw [set] at member
      split at member
      · rcases List.mem_cons.1 member with rfl | member
        · exact .inr rfl
        · exact .inl (List.mem_cons_of_mem _ member)
      · rcases List.mem_cons.1 member with rfl | member
        · exact .inl (List.mem_cons_self ..)
        · exact (ih member).imp_left (List.mem_cons_of_mem _)

/-- No name is lost by a write. -/
theorem mem_names_set (h : l ∈ names fields) : l ∈ names (set fields k v) := by
  induction fields with
  | nil => cases h
  | cons entry fields ih =>
      rcases entry with ⟨n, u⟩
      by_cases here : n == k
      · simpa [set, here, names] using h
      · have written : names (set ((n, u) :: fields) k v) = n :: names (set fields k v) := by
          simp [set, here, names]
        rw [written]
        rcases List.mem_cons.1 h with rfl | h
        · exact List.mem_cons_self ..
        · exact List.mem_cons_of_mem _ (ih h)

/-- A write adds no name but its own. -/
theorem mem_names_of_mem_set (h : l ∈ names (set fields k v)) : l ∈ names fields ∨ l = k := by
  induction fields with
  | nil => exact .inr (List.mem_singleton.1 h)
  | cons entry fields ih =>
      rcases entry with ⟨n, u⟩
      rw [set] at h
      split at h
      · exact .inl h
      · rcases List.mem_cons.1 h with rfl | h
        · exact .inl (List.mem_cons_self ..)
        · exact (ih h).imp_left (List.mem_cons_of_mem _)

variable [EquivBEq κ]

theorem get?_congr (same : (k == l) = true) : get? fields k = get? fields l := by
  induction fields with
  | nil => rfl
  | cons entry fields ih => rw [get?_cons, get?_cons, BEq.congr_left same, ih]

theorem get?_set_self : get? (set fields k v) k = some v := by
  induction fields with
  | nil => simp [set, get?_cons]
  | cons entry fields ih =>
      rcases entry with ⟨n, u⟩
      by_cases here : n == k
      · have symm : (k == n) = true := BEq.symm here
        simp [set, here, get?_cons, symm]
      · have other : (k == n) = false := by simpa [BEq.comm] using here
        simp [set, here, get?_cons, other, ih]

theorem get?_set_of_ne (other : (l == k) = false) : get? (set fields k v) l = get? fields l := by
  induction fields with
  | nil => simp only [set, get?_cons, other, Bool.false_eq_true, if_false]
  | cons entry fields ih =>
      rcases entry with ⟨n, u⟩
      by_cases here : n == k
      · have apart : (l == n) = false := by
          rw [BEq.congr_right here]
          exact other
        simp [set, here, get?_cons, apart]
      · simp [set, here, get?_cons, ih]

theorem get?_erase_of_ne (other : (l == k) = false) : get? (erase fields k) l = get? fields l := by
  induction fields with
  | nil => rfl
  | cons entry fields ih =>
      rcases entry with ⟨n, u⟩
      by_cases here : n == k
      · have apart : (l == n) = false := by
          rw [BEq.congr_right here]
          exact other
        have gone : erase ((n, u) :: fields) k = erase fields k := by simp [erase, bne, here]
        rw [gone, ih]
        simp [get?_cons, apart]
      · have kept : erase ((n, u) :: fields) k = (n, u) :: erase fields k := by
          simp [erase, bne, here]
        rw [kept, get?_cons, get?_cons, ih]

theorem get?_erase_self : get? (erase fields k) k = none := by
  induction fields with
  | nil => rfl
  | cons entry fields ih =>
      rcases entry with ⟨n, u⟩
      by_cases here : n == k
      · simpa [erase, bne, here] using ih
      · have apart : (k == n) = false := by simpa [BEq.comm] using here
        have kept : erase ((n, u) :: fields) k = (n, u) :: erase fields k := by
          simp [erase, bne, here]
        rw [kept, get?_cons, apart]
        exact ih

theorem set_set : set (set fields k v) k w = set fields k w := by
  induction fields with
  | nil => simp [set]
  | cons entry fields ih =>
      rcases entry with ⟨n, u⟩
      by_cases here : n == k <;> simp [set, here, ih]

/-- A name that is there keeps its place. -/
theorem names_set_of_get? (found : get? fields k = some v) :
    names (set fields k w) = names fields := by
  induction fields with
  | nil => cases found
  | cons entry fields ih =>
      rcases entry with ⟨n, u⟩
      by_cases here : n == k
      · simp [set, here, names]
      · have apart : (k == n) = false := by simpa [BEq.comm] using here
        have rest : get? fields k = some v := by simpa [get?_cons, apart] using found
        have same := ih rest
        simp only [names] at same
        simp [set, here, names, same]

/-! ## Merging -/

/-- Only the value that a name had counts for what it gets. -/
theorem get?_merge_congr {others update : Fields α κ} (same : get? fields k = get? others k) :
    get? (merge fields update) k = get? (merge others update) k := by
  induction update generalizing fields others with
  | nil => exact same
  | cons entry update ih =>
      rcases entry with ⟨n, u⟩
      refine ih ?_
      by_cases here : k == n
      · have symm : (n == k) = true := BEq.symm here
        rw [get?_congr here, get?_congr here, get?_set_self, get?_set_self]
      · have apart : (k == n) = false := by simpa using here
        rw [get?_set_of_ne apart, get?_set_of_ne apart, same]

theorem get?_merge_of_absent {update : Fields α κ} (absent : get? update k = none) :
    get? (merge fields update) k = get? fields k := by
  induction update generalizing fields with
  | nil => rfl
  | cons entry update ih =>
      rcases entry with ⟨n, u⟩
      rw [get?_cons] at absent
      by_cases here : k == n
      · simp [here] at absent
      · have apart : (k == n) = false := by simpa using here
        rw [apart] at absent
        exact (ih absent).trans (get?_set_of_ne apart)

/-! ## Writing what is there -/

theorem set_of_get?_eq_some (found : get? fields k = some v) : set fields k v = fields := by
  induction fields with
  | nil => cases found
  | cons entry fields ih =>
      rcases entry with ⟨n, u⟩
      by_cases here : k == n
      · have symm : (n == k) = true := BEq.symm here
        have value : u = v := by simpa [get?_cons, here] using found
        simp [set, symm, value]
      · have apart : (n == k) = false := by simpa [BEq.comm] using here
        have rest : get? fields k = some v := by simpa [get?_cons, here] using found
        simp [set, apart, ih rest]

/-- A write changes nothing exactly when the value is there already. -/
theorem set_eq_self_iff : set fields k v = fields ↔ get? fields k = some v := by
  constructor
  · intro same
    rw [← same]
    exact get?_set_self
  · exact set_of_get?_eq_some

end Equivalence

/-! ## Names that are told apart -/

/-- No two names are one. -/
def Distinct {α κ : Type} [BEq κ] (fields : Fields α κ) : Prop :=
  fields.names.Pairwise fun k l => (k == l) = false

section Distinct

variable {α κ : Type} [BEq κ] [EquivBEq κ] {fields : Fields α κ} {k : κ} {v : α}

theorem distinct_append_single (distinct : fields.Distinct) (free : has fields k = false) :
    Distinct (fields ++ [(k, v)]) := by
  rw [has_eq_any_names, List.any_eq_false] at free
  unfold Distinct names at *
  rw [List.map_append, List.pairwise_append]
  refine ⟨distinct, List.pairwise_singleton .., fun other member last single => ?_⟩
  rw [List.mem_singleton.1 single, BEq.comm]
  simpa using free other member

/-- A name that is not there yet goes to the end. -/
theorem set_of_has_eq_false (free : has fields k = false) :
    set fields k v = fields ++ [(k, v)] := by
  induction fields with
  | nil => rfl
  | cons entry fields ih =>
      rcases entry with ⟨n, u⟩
      rw [has_eq_any_names] at free ih
      simp only [names, List.map_cons, List.any_cons, Bool.or_eq_false_iff] at free
      have apart : (n == k) = false := by
        rw [BEq.comm]
        exact free.1
      simp [set, apart, ih free.2]

theorem distinct_set (distinct : fields.Distinct) : Distinct (set fields k v) := by
  cases there : has fields k with
  | true =>
      rcases has_eq_true_iff.1 there with ⟨u, found⟩
      rw [Distinct, names_set_of_get? found]
      exact distinct
  | false =>
      rw [set_of_has_eq_false there]
      exact distinct_append_single distinct there

end Distinct

/-! ## Distinct names -/

variable {α κ : Type} [BEq κ] [LawfulBEq κ] {fields pairs : Fields α κ} {k : κ} {v : α}

theorem mem_names_iff : k ∈ names fields ↔ (get? fields k).isSome = true := by
  have any : (get? fields k).isSome = (names fields).any (k == ·) := has_eq_any_names
  simp [any]

theorem get?_of_not_mem_names (absent : k ∉ names fields) : get? fields k = none := by
  rwa [← Option.not_isSome_iff_eq_none, ← mem_names_iff]

theorem mem_of_get? (found : get? fields k = some v) : (k, v) ∈ fields := by
  induction fields with
  | nil => cases found
  | cons entry fields ih =>
      rcases entry with ⟨n, u⟩
      rw [get?_cons] at found
      split at found
      · rename_i here
        cases found
        rw [eq_of_beq here]
        exact List.mem_cons_self ..
      · exact List.mem_cons_of_mem _ (ih found)

theorem get?_of_mem (distinct : (names fields).Nodup) (member : (k, v) ∈ fields) :
    get? fields k = some v := by
  induction fields with
  | nil => cases member
  | cons entry fields ih =>
      rcases List.nodup_cons.1 distinct with ⟨apart, rest⟩
      rw [get?_cons]
      rcases List.mem_cons.1 member with rfl | member
      · simp
      · have other : k ≠ entry.1 := by
          rintro rfl
          exact apart (List.mem_map.2 ⟨_, member, rfl⟩)
        simp [other, ih rest member]

/-- The later fields count, and where they have no value the earlier ones do. -/
theorem get?_merge {update : Fields α κ} (distinct : (names update).Nodup) :
    get? (merge fields update) k = (get? update k).or (get? fields k) := by
  induction update generalizing fields with
  | nil => rfl
  | cons entry update ih =>
      rcases entry with ⟨n, u⟩
      rcases List.nodup_cons.1 distinct with ⟨apart, rest⟩
      have merged : get? (merge (set fields n u) update) k =
          (get? update k).or (get? (set fields n u) k) := ih rest
      refine Eq.trans merged ?_
      rw [get?_cons]
      by_cases here : k = n
      · have absent : get? update n = none := get?_of_not_mem_names apart
        simp [here, absent, get?_set_self]
      · have other : (k == n) = false := by simpa using here
        simp [other, get?_set_of_ne other]

theorem erase_of_absent (free : get? fields k = none) : erase fields k = fields := by
  refine List.filter_eq_self.2 ?_
  intro entry member
  have apart : entry.1 ≠ k := by
    rintro rfl
    have there := mem_names_iff.1 (List.mem_map_of_mem member : entry.1 ∈ names fields)
    rw [free] at there
    cases there
  simpa using apart

/-- A name that was not there goes without a trace. -/
theorem erase_set_of_absent (free : get? fields k = none) : erase (set fields k v) k = fields := by
  have absent : has fields k = false := by
    simpa [has, get?] using free
  have last : erase [(k, v)] k = [] := by simp [erase]
  calc erase (set fields k v) k
      = erase fields k ++ erase [(k, v)] k := by
        rw [set_of_has_eq_false absent, erase, List.filter_append]
        rfl
    _ = fields := by rw [last, erase_of_absent free, List.append_nil]

theorem mem_set {entry : κ × α} (h : entry ∈ set fields k v) :
    entry ∈ fields ∨ entry = (k, v) := by
  induction fields with
  | nil => exact .inr (List.mem_singleton.1 h)
  | cons first fields ih =>
      rcases first with ⟨n, u⟩
      by_cases here : n = k
      · rw [set, if_pos (by simpa using here)] at h
        rcases List.mem_cons.1 h with rfl | h
        · exact .inr (by rw [here])
        · exact .inl (List.mem_cons_of_mem _ h)
      · rw [set, if_neg (by simpa using here)] at h
        rcases List.mem_cons.1 h with rfl | h
        · exact .inl (List.mem_cons_self ..)
        · exact (ih h).imp_left (List.mem_cons_of_mem _)

theorem mem_merge {update : Fields α κ} {entry : κ × α} (h : entry ∈ merge fields update) :
    entry ∈ fields ∨ entry ∈ update := by
  induction update generalizing fields with
  | nil => exact .inl h
  | cons first update ih =>
      rcases ih h with h | h
      · rcases mem_set h with h | rfl
        · exact .inl h
        · exact .inr (List.mem_cons_self ..)
      · exact .inr (List.mem_cons_of_mem _ h)

theorem mem_ofPairs {entry : κ × α} (h : entry ∈ ofPairs pairs) : entry ∈ pairs :=
  (mem_merge h).resolve_left (List.not_mem_nil)

theorem set_of_not_mem (absent : k ∉ names fields) : set fields k v = fields ++ [(k, v)] := by
  induction fields with
  | nil => rfl
  | cons first fields ih =>
      rcases first with ⟨n, u⟩
      have apart : n ≠ k := fun e => absent (e ▸ List.mem_cons_self ..)
      have rest := ih fun h => absent (List.mem_cons_of_mem n h)
      simp [set, apart, rest]

theorem nodup_names_set (distinct : (names fields).Nodup) : (names (set fields k v)).Nodup := by
  by_cases absent : k ∈ names fields
  · have same : names (set fields k v) = names fields := by
      clear distinct
      induction fields with
      | nil => cases absent
      | cons first fields ih =>
          rcases first with ⟨n, u⟩
          by_cases here : n = k
          · simp [set, here, names]
          · have later : k ∈ names fields := (List.mem_cons.1 absent).resolve_left (Ne.symm here)
            have rest := ih later
            simp only [names] at rest
            simp [set, here, names, rest]
    rw [same]
    exact distinct
  · rw [set_of_not_mem absent]
    have apart : ∀ n ∈ names fields, n ≠ k := fun n hn e => absent (e ▸ hn)
    simp only [names, List.map_append, List.map_cons, List.map_nil, List.nodup_append]
    refine ⟨distinct, List.nodup_singleton k, fun n hn m hm => ?_⟩
    rw [List.mem_singleton.1 hm]
    exact apart n hn

theorem nodup_names_merge {update : Fields α κ} (distinct : (names fields).Nodup) :
    (names (merge fields update)).Nodup := by
  induction update generalizing fields with
  | nil => exact distinct
  | cons first update ih => exact ih (nodup_names_set distinct)

theorem nodup_names_ofPairs : (names (ofPairs pairs)).Nodup := nodup_names_merge .nil

theorem merge_of_nodup (distinct : (names (fields ++ pairs)).Nodup) :
    merge fields pairs = fields ++ pairs := by
  induction pairs generalizing fields with
  | nil => simp [merge]
  | cons first pairs ih =>
      rcases first with ⟨n, u⟩
      have joined : fields ++ (n, u) :: pairs = (fields ++ [(n, u)]) ++ pairs := by simp
      have absent : n ∉ names fields := by
        intro h
        simp only [names, List.map_append, List.map_cons, List.nodup_append] at distinct
        exact distinct.2.2 n h n (List.mem_cons_self ..) rfl
      rw [joined] at distinct ⊢
      have rest := ih distinct
      rw [← set_of_not_mem (v := u) absent] at rest ⊢
      exact rest

/-- Pairs with distinct names are fields as they are. -/
theorem ofPairs_of_nodup (distinct : (names pairs).Nodup) : ofPairs pairs = pairs := by
  have whole : merge [] pairs = [] ++ pairs := merge_of_nodup distinct
  exact whole

end DataGateway.Fields
