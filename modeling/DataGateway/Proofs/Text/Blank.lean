import DataGateway.Text.Blank
import Mathlib.Data.List.TakeWhile

/-!
# Texts without blanks at their ends

What removing the members of a class from both ends leaves: it neither begins nor ends with one, so
removing them again changes nothing, and all other characters are still there.

* `trimBy_trimBy`, `trim_trim` — there is nothing left to remove;
* `mem_trim_of_mem` — a character that is no blank stays.
-/

namespace DataGateway.Text

variable {α : Type} {skip : α → Bool}

/-- Where dropping stops there is no member of the class. -/
theorem head?_dropWhile (skip : α → Bool) (s : List α) :
    ∀ c ∈ (s.dropWhile skip).head?, skip c = false := by
  intro c first
  have stop := List.head?_dropWhile_not skip s
  rw [Option.mem_def.1 first] at stop
  simpa using stop

theorem dropWhile_of_head? {s : List α} (clear : ∀ c ∈ s.head?, skip c = false) :
    s.dropWhile skip = s := by
  cases s with
  | nil => rfl
  | cons c s => rw [List.dropWhile_cons, clear c rfl, if_neg Bool.false_ne_true]

/-- What is left begins where dropping from the beginning stops. -/
theorem trimBy_prefix (skip : α → Bool) (s : List α) : trimBy skip s <+: s.dropWhile skip := by
  rw [trimBy, ← List.reverse_suffix, List.reverse_reverse]
  exact List.dropWhile_suffix skip

theorem head?_trimBy (skip : α → Bool) (s : List α) :
    ∀ c ∈ (trimBy skip s).head?, skip c = false := by
  intro c first
  rcases trimBy_prefix skip s with ⟨rest, whole⟩
  refine head?_dropWhile skip s c ?_
  rw [← whole, List.head?_append, Option.mem_def.1 first]
  rfl

/-- There is nothing left to remove. -/
theorem trimBy_trimBy (skip : α → Bool) (s : List α) :
    trimBy skip (trimBy skip s) = trimBy skip s := by
  have front : (trimBy skip s).dropWhile skip = trimBy skip s :=
    dropWhile_of_head? (head?_trimBy skip s)
  -- the end was reached by dropping from the reversed text
  have back : (trimBy skip s).reverse.dropWhile skip = (trimBy skip s).reverse := by
    refine dropWhile_of_head? ?_
    rw [trimBy, List.reverse_reverse]
    exact head?_dropWhile skip _
  rw [trimBy, front, back, List.reverse_reverse]

theorem trim_trim (s : String) : trim (trim s) = trim s := by
  simp only [trim, String.toList_ofList, trimBy_trimBy]

theorem mem_dropWhile_of_mem {s : List α} {c : α} (keeps : skip c = false) (member : c ∈ s) :
    c ∈ s.dropWhile skip := by
  rw [← List.takeWhile_append_dropWhile (p := skip) (l := s)] at member
  refine (List.mem_append.1 member).resolve_left fun dropped => ?_
  rw [List.mem_takeWhile_imp dropped] at keeps
  cases keeps

/-- A character that is no blank stays. -/
theorem mem_trim_of_mem {s : String} {c : Char} (keeps : isBlank c = false) (member : c ∈ s.toList) :
    c ∈ (trim s).toList := by
  have behind := List.mem_reverse.2 (mem_dropWhile_of_mem keeps member)
  rw [trim, String.toList_ofList, trimBy]
  exact List.mem_reverse.2 (mem_dropWhile_of_mem keeps behind)

end DataGateway.Text
