import DataGateway.Text.Search
import Mathlib.Data.List.Basic

/-!
# Pieces of a text

A text that was put together with a separator comes apart into the texts that it was made of, as long as
none of them has the separator in it.

* `pieces_intercalate` — the pieces of texts that were joined are these texts;
* `cut` — the two sides of the first occurrence of a character.
-/

namespace DataGateway.Text

variable {separator : Char} {s : List Char}

/-! ## Pieces -/

theorem apart_of_not_mem {c : Char} (clear : separator ∉ c :: s) :
    ¬(c == separator) = true ∧ separator ∉ s := by
  rcases List.ne_and_not_mem_of_not_mem_cons clear with ⟨other, rest⟩
  exact ⟨fun same => other (beq_iff_eq.1 same).symm, rest⟩

theorem pieces_cons_self (rest : List Char) :
    pieces separator (separator :: rest) = [] :: pieces separator rest := by
  rw [pieces, if_pos (beq_self_eq_true separator)]

theorem pieces_of_not_mem (clear : separator ∉ s) : pieces separator s = [s] := by
  induction s with
  | nil => rfl
  | cons c s ih =>
      rcases apart_of_not_mem clear with ⟨apart, clear⟩
      rw [pieces, if_neg apart, ih clear]

theorem pieces_ne_nil (s : List Char) : pieces separator s ≠ [] := by
  cases s with
  | nil => exact List.cons_ne_nil _ _
  | cons c s =>
      rw [pieces]
      split
      · exact List.cons_ne_nil _ _
      · split <;> exact List.cons_ne_nil _ _

/-- The pieces before a separator and those behind it are apart. -/
theorem pieces_append (s rest : List Char) :
    pieces separator (s ++ separator :: rest) = pieces separator s ++ pieces separator rest := by
  induction s with
  | nil => exact pieces_cons_self rest
  | cons c s ih =>
      rw [List.cons_append, pieces, ih, pieces]
      split
      · rfl
      · cases before : pieces separator s with
        | nil => exact absurd before (pieces_ne_nil s)
        | cons piece others => rfl

theorem pieces_append_cons (clear : separator ∉ s) (rest : List Char) :
    pieces separator (s ++ separator :: rest) = s :: pieces separator rest := by
  rw [pieces_append, pieces_of_not_mem clear, List.singleton_append]

/-- No piece has the separator in it. -/
theorem not_mem_of_mem_pieces {piece : List Char} (member : piece ∈ pieces separator s) :
    separator ∉ piece := by
  induction s generalizing piece with
  | nil =>
      cases List.mem_singleton.1 member
      exact List.not_mem_nil
  | cons c s ih =>
      rw [pieces] at member
      split at member
      · rcases List.mem_cons.1 member with rfl | later
        · exact List.not_mem_nil
        · exact ih later
      · rename_i apart
        have other : separator ≠ c := fun same => apart (beq_iff_eq.2 same.symm)
        -- the first piece grows by a character that is no separator, the others stay
        split at member
        · rename_i first others split
          rw [split] at ih
          rcases List.mem_cons.1 member with rfl | later
          · exact List.not_mem_cons_of_ne_of_not_mem other (ih (List.mem_cons_self ..))
          · exact ih (List.mem_cons_of_mem _ later)
        · cases List.mem_singleton.1 member
          exact List.not_mem_cons_of_ne_of_not_mem other List.not_mem_nil

theorem pieces_intercalate {parts : List (List Char)} (some : parts ≠ [])
    (clear : ∀ part ∈ parts, separator ∉ part) :
    pieces separator ([separator].intercalate parts) = parts := by
  induction parts with
  | nil => exact absurd rfl some
  | cons part parts ih =>
      have first := clear part (List.mem_cons_self ..)
      cases parts with
      | nil => rw [List.intercalate_singleton, pieces_of_not_mem first]
      | cons next others =>
          have rest := ih nofun fun p hp => clear p (List.mem_cons_of_mem part hp)
          rw [List.intercalate_cons_cons, List.append_assoc, List.singleton_append,
            pieces_append_cons first, rest]

/-! ## The first occurrence -/

/-- What stands before the first occurrence of a character, and what stands behind it, if it occurs. -/
def cut (separator : Char) : List Char → List Char × Option (List Char)
  | [] => ([], none)
  | c :: rest =>
    if c == separator then ([], some rest)
    else ((c :: (cut separator rest).1), (cut separator rest).2)

theorem cut_of_not_mem (clear : separator ∉ s) : cut separator s = (s, none) := by
  induction s with
  | nil => rfl
  | cons c s ih =>
      rcases apart_of_not_mem clear with ⟨apart, clear⟩
      rw [cut, if_neg apart, ih clear]

theorem cut_append_cons (clear : separator ∉ s) (rest : List Char) :
    cut separator (s ++ separator :: rest) = (s, some rest) := by
  induction s with
  | nil => rw [List.nil_append, cut, if_pos (beq_self_eq_true separator)]
  | cons c s ih =>
      rcases apart_of_not_mem clear with ⟨apart, clear⟩
      rw [List.cons_append, cut, if_neg apart, ih clear]

end DataGateway.Text
