import DataGateway.Proofs.Sorting.Natural
import DataGateway.Proofs.Value.Key
import DataGateway.Query.Ordering
import Mathlib.Data.List.Basic
import Mathlib.Data.String.Basic

/-!
# Sorting by keys of one kind

Keys that are all texts, or all whole numbers, are never told apart from their places on a line. So
sorting by them succeeds and loses nothing, and rows with equal keys keep their order in both
directions.

* `Value.AtMost`, `Value.OneKind` — the order of such keys, and when keys are of one kind;
* `Arranged` — what sorting makes of rows, whatever a key is read from;
* `arranged_mergeSort` — a merge sort by ranks arranges rows upwards;
* `Keyed.exists_sort` — rows with keys of one kind are arranged in either direction;
* `Keyed.sort_perm` — rows with other keys are not lost either, if they can be sorted.
-/

namespace DataGateway

/-! ## Keys of one kind -/

namespace Value

/-- The order of texts by their characters, and of whole numbers; truth values count as one and zero. -/
inductive AtMost : Value → Value → Prop
  | text {s t : String} (le : s ≤ t) : AtMost (text s) (text t)
  | whole {a b : Value} {m n : Int} (first : a.whole? = some m) (second : b.whole? = some n)
      (le : m ≤ n) : AtMost a b

/-- Does the first key stand before the second, or with it, in a direction? -/
def InOrder (ascending : Bool) (a b : Value) : Prop := if ascending then AtMost a b else AtMost b a

/-- Are the keys all texts, or all whole numbers? -/
def OneKind (keys : List Value) : Prop :=
  (∀ key ∈ keys, ∃ s, key = text s) ∨ ∀ key ∈ keys, ∃ n, key.whole? = some n

theorem place_of_whole {v : Value} {n : Int} (whole : v.whole? = some n) :
    v.quantity? = some (.ofInt n) := by
  cases v with
  | float _ => cases whole
  | _ => simp [quantity?, whole]

theorem ofInt_injective {m n : Int} (same : Quantity.ofInt m = .ofInt n) : m = n := by
  have units : m * (Magnitude.one : Int) = n * Magnitude.one := Quantity.units.inj same
  have positive : (Magnitude.one : Int) ≠ 0 := by exact_mod_cast Magnitude.one_pos.ne'
  exact Int.eq_of_mul_eq_mul_right positive units

theorem relate_of_whole {a b : Value} {m n : Int} (first : a.whole? = some m)
    (second : b.whole? = some n) : a.relate b = .ok ((Quantity.ofInt m).relate (.ofInt n)) := by
  have plain : a.relate b = a.plainRelate b := by
    cases a with
    | bool _ => simp [relate]
    | int _ => simp [relate]
    | _ => cases first
  simp [plain, plainRelate, place_of_whole first, place_of_whole second]

/-- Of whole numbers only one is equal to a given value. -/
theorem eq_of_looseEq_whole {a b v : Value} {m n : Int} (first : a.whole? = some m)
    (second : b.whole? = some n) (left : a.looseEq v = true) (right : b.looseEq v = true) : m = n := by
  have number {w : Value} {k : Int} (whole : w.whole? = some k) (equal : w.looseEq v = true) :
      v.form = .number (.ofInt k) := by
    have form : w.form = .number (.ofInt k) := form_of_place (place_of_whole whole) nofun
    have same : w.same v = true := (Bool.and_eq_true_iff.1 equal).2
    rw [← form]
    exact ((same_iff_form_of_number form).1 same).symm
  have forms := (number first left).symm.trans (number second right)
  exact ofInt_injective (Form.number.inj forms)

end Value

namespace Query

open Value

/-! ## Arranged rows -/

/-- What sorting makes of rows: none is lost, the keys stand in order, and rows whose keys are equal
to one value keep their order. -/
structure Arranged {α : Type} (key : α → Value) (ascending : Bool) (rows arranged : List α) :
    Prop where
  perm : arranged.Perm rows
  inOrder : arranged.Pairwise fun a b => InOrder ascending (key a) (key b)
  stable : ∀ v, (arranged.filter fun row => (key row).looseEq v) =
    rows.filter fun row => (key row).looseEq v

namespace Arranged

variable {α β : Type} {key : α → Value} {ascending : Bool} {rows arranged : List α}

/-- Rows that are turned around before and after go down, and equal ones are in their old order. -/
theorem reverse (up : Arranged key true rows.reverse arranged) :
    Arranged key false rows arranged.reverse where
  perm := arranged.reverse_perm.trans (up.perm.trans rows.reverse_perm)
  inOrder := List.pairwise_reverse.2 up.inOrder
  stable v := by
    rw [List.filter_reverse, up.stable v, List.filter_reverse, List.reverse_reverse]

theorem map {f : α → β} {other : β → Value} (known : ∀ row ∈ rows, other (f row) = key row)
    (sorted : Arranged key ascending rows arranged) :
    Arranged other ascending (rows.map f) (arranged.map f) where
  perm := sorted.perm.map f
  inOrder := by
    refine List.pairwise_map.2 (sorted.inOrder.imp_of_mem fun {a b} first second ordered => ?_)
    rw [known a (sorted.perm.mem_iff.1 first), known b (sorted.perm.mem_iff.1 second)]
    exact ordered
  stable v := by
    have asked : ∀ row ∈ rows, (other (f row)).looseEq v = (key row).looseEq v := fun row member => by
      rw [known row member]
    have first : ∀ row ∈ arranged, (other (f row)).looseEq v = (key row).looseEq v :=
      fun row member => asked row (sorted.perm.mem_iff.1 member)
    simp only [List.filter_map, Function.comp_def]
    rw [List.filter_congr first, List.filter_congr asked, sorted.stable v]

end Arranged

/-! ## Sorting by ranks -/

section Ranks

variable {α ρ : Type} [LinearOrder ρ] (rank : α → ρ)

/-- May a row stand before another one by their ranks? -/
def ranked (a b : α) : Bool := rank a ≤ rank b

theorem ranked_trans (a b c : α) (first : ranked rank a b = true) (second : ranked rank b c = true) :
    ranked rank a c = true :=
  decide_eq_true ((of_decide_eq_true first).trans (of_decide_eq_true second))

theorem ranked_total (a b : α) : (ranked rank a b || ranked rank b a) = true := by
  simpa [ranked] using le_total (rank a) (rank b)

/-- Rows of one rank come out of a merge sort as they went in. -/
theorem filter_mergeSort {rows : List α} {test : α → Bool}
    (tied : ∀ a ∈ rows, ∀ b ∈ rows, test a = true → test b = true → rank a = rank b) :
    (rows.mergeSort (ranked rank)).filter test = rows.filter test := by
  have pairs : (rows.filter test).Pairwise fun a b => ranked rank a b = true := by
    refine List.pairwise_of_forall_mem_list fun a first b second => ?_
    rcases List.mem_filter.1 first with ⟨member, passes⟩
    rcases List.mem_filter.1 second with ⟨other, also⟩
    exact decide_eq_true (tied a member b other passes also).le
  -- they are in order already, so sorting keeps them as a part of the whole
  have part := List.sublist_mergeSort (ranked_trans rank) (ranked_total rank) pairs
    List.filter_sublist
  have kept : (rows.filter test).Sublist ((rows.mergeSort (ranked rank)).filter test) := by
    simpa using part.filter test
  have length := ((rows.mergeSort_perm (ranked rank)).filter test).length_eq
  exact (kept.eq_of_length length.symm).symm

/-- A merge sort arranges rows upwards whose keys are ordered as their ranks are. -/
theorem arranged_mergeSort {key : α → Value} {rows : List α}
    (ordered : ∀ a ∈ rows, ∀ b ∈ rows, rank a ≤ rank b → AtMost (key a) (key b))
    (tied : ∀ v, ∀ a ∈ rows, ∀ b ∈ rows, (key a).looseEq v = true → (key b).looseEq v = true →
      rank a = rank b) : Arranged key true rows (rows.mergeSort (ranked rank)) where
  perm := rows.mergeSort_perm _
  inOrder := by
    have sorted := List.pairwise_mergeSort (ranked_trans rank) (ranked_total rank) rows
    refine sorted.imp_of_mem fun {a b} first second le => ?_
    have le : rank a ≤ rank b := of_decide_eq_true le
    exact ordered a ((rows.mergeSort_perm _).mem_iff.1 first) b
      ((rows.mergeSort_perm _).mem_iff.1 second) le
  stable v := filter_mergeSort rank (tied v)

end Ranks

/-! ## Rows with keys -/

namespace Keyed

variable {rows : List Keyed}

theorem ne_less_iff {ρ : Type} [LinearOrder ρ] {a b : ρ} :
    (Relation.ofOrder a b != .less) = decide (b ≤ a) := by
  unfold Relation.ofOrder
  split
  · rename_i less
    simp [less]
  · rename_i more
    rw [decide_eq_true (not_lt.1 more)]
    split <;> rfl

/-- Where rows may stand as their ranks say, a merge sort by the keys is one by the ranks. -/
theorem sortUp_eq {ρ : Type} [LinearOrder ρ] (rank : Keyed → ρ) (uniform : isUniform rows = true)
    (agree : ∀ a ∈ rows, ∀ b ∈ rows, mayPrecede a b = ranked rank a b) :
    sortUp rows = .ok (rows.mergeSort (ranked rank)) := by
  have same : (rows.mergeSort mayPrecede).map id = (rows.map id).mergeSort (ranked rank) :=
    List.map_mergeSort agree
  rw [List.map_id, List.map_id] at same
  rw [sortUp, if_pos uniform, same]

theorem mayPrecede_whole {a b : Keyed} {m n : Int} (first : a.key.whole? = some m)
    (second : b.key.whole? = some n) : mayPrecede a b = decide (m ≤ n) := by
  have positive : (0 : Int) < Magnitude.one := by exact_mod_cast Magnitude.one_pos
  have scaled : m * (Magnitude.one : Int) ≤ n * Magnitude.one ↔ m ≤ n := by
    exact Int.mul_le_mul_right positive
  simp only [mayPrecede, relate_of_whole second first, Quantity.relate, Quantity.ofInt, ne_less_iff]
  exact decide_eq_decide.2 scaled

theorem mayPrecede_text {a b : Keyed} {s t : String} (first : a.key = .text s)
    (second : b.key = .text t) : mayPrecede a b = decide (s ≤ t) := by
  have related : b.key.relate a.key = .ok (.ofOrder t s) := by
    rw [first, second]
    simp [relate, plainRelate, quantity?, whole?]
  rw [mayPrecede, related]
  exact ne_less_iff

theorem exists_sortUp_text (texts : ∀ row ∈ rows, ∃ s, row.key = .text s) :
    ∃ sorted, sortUp rows = .ok sorted ∧ Arranged key true rows sorted := by
  let rank (row : Keyed) : String := (textKey? row).getD ""
  have ranks : ∀ row ∈ rows, row.key = .text (rank row) := by
    intro row member
    rcases texts row member with ⟨s, read⟩
    simp [rank, textKey?, read]
  refine ⟨_, sortUp_eq rank ?_ ?_, arranged_mergeSort rank ?_ ?_⟩
  · have all : ∀ row ∈ rows, (textKey? row).isSome = true := fun row member => by
      rw [textKey?, ranks row member]
      rfl
    rw [isUniform, List.all_eq_true.2 all, Bool.true_or]
  · intro a first b second
    exact mayPrecede_text (ranks a first) (ranks b second)
  · intro a first b second le
    rw [ranks a first, ranks b second]
    exact .text le
  · intro v a first b second left right
    rw [ranks a first, text_looseEq_iff] at left
    rw [ranks b second, text_looseEq_iff, left] at right
    exact text.inj right

theorem exists_sortUp_whole (wholes : ∀ row ∈ rows, ∃ n, row.key.whole? = some n) :
    ∃ sorted, sortUp rows = .ok sorted ∧ Arranged key true rows sorted := by
  let rank (row : Keyed) : Int := (wholeKey? row).getD 0
  have ranks : ∀ row ∈ rows, row.key.whole? = some (rank row) := by
    intro row member
    rcases wholes row member with ⟨n, read⟩
    simp [rank, wholeKey?, read]
  refine ⟨_, sortUp_eq rank ?_ ?_, arranged_mergeSort rank ?_ ?_⟩
  · have all : ∀ row ∈ rows, (wholeKey? row).isSome = true := fun row member => by
      rw [wholeKey?, ranks row member]
      rfl
    rw [isUniform, List.all_eq_true.2 all, Bool.or_true]
  · intro a first b second
    exact mayPrecede_whole (ranks a first) (ranks b second)
  · intro a first b second le
    exact .whole (ranks a first) (ranks b second) le
  · intro v a first b second left right
    exact eq_of_looseEq_whole (ranks a first) (ranks b second) left right

theorem exists_sortUp (kind : OneKind (rows.map key)) :
    ∃ sorted, sortUp rows = .ok sorted ∧ Arranged key true rows sorted := by
  rcases kind with texts | wholes
  · exact exists_sortUp_text fun row member => texts _ (List.mem_map_of_mem member)
  · exact exists_sortUp_whole fun row member => wholes _ (List.mem_map_of_mem member)

/-- Sorting by keys of one kind succeeds in both directions and arranges the rows. -/
theorem exists_sort (kind : OneKind (rows.map key)) (ascending : Bool) :
    ∃ sorted, sort ascending rows = .ok sorted ∧ Arranged key ascending rows sorted := by
  cases ascending with
  | true => exact exists_sortUp kind
  | false =>
      have turned : OneKind (rows.reverse.map key) := by
        simpa only [OneKind, List.map_reverse, List.mem_reverse] using kind
      rcases exists_sortUp turned with ⟨sorted, sorts, arranged⟩
      refine ⟨sorted.reverse, ?_, arranged.reverse⟩
      simp only [sort, sorts]
      rfl

/-! ## Keys of any kind -/

theorem sortUp_perm {sorted : List Keyed} (ran : sortUp rows = .ok sorted) : sorted.Perm rows := by
  unfold sortUp at ran
  split at ran
  · cases ran
    exact rows.mergeSort_perm _
  · exact Sorting.sort_perm ran

/-- Whatever the keys are: if the rows can be sorted, none of them is lost. -/
theorem sort_perm {ascending : Bool} {sorted : List Keyed} (ran : sort ascending rows = .ok sorted) :
    sorted.Perm rows := by
  cases ascending with
  | true => exact sortUp_perm ran
  | false =>
      rcases map_eq_ok_iff.1 ran with ⟨turned, went, rfl⟩
      exact turned.reverse_perm.trans ((sortUp_perm went).trans rows.reverse_perm)

end Keyed

end Query

end DataGateway
