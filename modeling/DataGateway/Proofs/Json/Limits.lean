import DataGateway.Proofs.Json.Recognition

/-!
# When readers give up

A reader gives up on a document for a whole number with too many digits, or for lists and objects that
are too deep inside each other, before it has found out whether the document says anything. So there is a
run of that many digits in the document, or there are that many brackets and braces that open something.

* `Exceeds` — a text has more of them than a reader takes;
* `GivesUp.exceeds` — a reader gives up on no other document.
-/

namespace DataGateway.Json

open Numeral

variable {levels : Nat} {s rest : List Char} {problem : Problem}

/-! ## Long and deep texts -/

def isOpening (c : Char) : Bool := c == '[' || c == '\x7b'

/-- Has a text a run of more digits than a whole number may have? -/
def HasLongRun (s : List Char) : Prop :=
  ∃ run, run <:+: s ∧ (∀ c ∈ run, isDigit c = true) ∧ digitLimit < run.length

/-- Has a text such a run, or more than `levels` brackets and braces that open something? -/
def Exceeds (levels : Nat) (s : List Char) : Prop := levels < s.countP isOpening ∨ HasLongRun s

theorem HasLongRun.append_left (front : List Char) (has : HasLongRun s) : HasLongRun (front ++ s) := by
  rcases has with ⟨run, inside, plain, long⟩
  exact ⟨run, inside.trans (List.suffix_append front s).isInfix, plain, long⟩

theorem Exceeds.append_left (front : List Char) (exceeds : Exceeds levels s) :
    Exceeds levels (front ++ s) := by
  rcases exceeds with deep | long
  · refine .inl ?_
    rw [List.countP_append]
    omega
  · exact .inr (long.append_left front)

/-- One more level is taken up by what opens it. -/
theorem Exceeds.opened {c : Char} (opens : isOpening c = true) (exceeds : Exceeds levels s) :
    Exceeds (levels + 1) (c :: s) := by
  rcases exceeds with deep | long
  · refine .inl ?_
    rw [List.countP_cons_of_pos opens]
    omega
  · exact .inr (long.append_left [c])

theorem Exceeds.skipped (exceeds : Exceeds levels (skip s)) : Exceeds levels s := by
  rcases blank_skip s with ⟨blanks, whole, _⟩
  rw [whole]
  exact exceeds.append_left blanks

/-! ## Texts and numbers -/

theorem eq_error_of_prepend {c : Char} {read : Except Problem (List Char × List Char)}
    (failed : prepend c read = .error problem) : read = .error problem := by
  rcases bind_eq_error_iff.1 failed with first | ⟨_, _, last⟩
  · exact first
  · cases last

/-- No text is given up for its length. -/
theorem not_isLimit_of_scanText {opening : List Char} (failed : scanText opening s = .error problem) :
    ¬problem.cause.IsLimit := by
  fun_induction scanText opening s with
  | case6 | case7 | case8 | case9 | case12 | case14 =>
      -- something has been read, and the failure is that of what follows
      rename_i ih
      exact ih (eq_error_of_prepend failed)
  | _ => cases failed <;> exact id

theorem hasLongRun_of_scanNumber {start : List Char} {negative : Bool}
    (failed : scanNumber start negative s = .error problem) (limit : problem.cause.IsLimit) :
    HasLongRun s := by
  unfold scanNumber at failed
  split at failed
  · cases failed
    exact limit.elim
  · rename_i digits behind whole
    rcases isWhole_of_scan whole with ⟨rfl, isWhole⟩
    dsimp only at failed
    split at failed
    · split at failed
      · rename_i long
        exact ⟨digits, (List.prefix_append digits behind).isInfix, isWhole.plain, long⟩
      · cases failed
    · cases failed

theorem hasLongRun_of_scanAtom (failed : scanAtom s = .error problem)
    (limit : problem.cause.IsLimit) : HasLongRun s := by
  unfold scanAtom at failed
  iterate 6
    split at failed
    · cases failed
  split at failed
  · exact (hasLongRun_of_scanNumber failed limit).append_left ['-']
  · exact hasLongRun_of_scanNumber failed limit

/-! ## Values -/

/-- Do the readers give up on nothing but long and deep texts, as far as the fuel reaches? -/
structure Patient (fuel : Nat) : Prop where
  value {levels : Nat} {s : List Char} {problem : Problem} :
    scanValue fuel levels s = .error problem → problem.cause.IsLimit → Exceeds levels s
  items {levels : Nat} {s : List Char} {problem : Problem} :
    scanItems fuel levels s = .error problem → problem.cause.IsLimit → Exceeds levels s
  fields {levels : Nat} {s : List Char} {problem : Problem} :
    scanFields fuel levels s = .error problem → problem.cause.IsLimit → Exceeds levels s

section Steps

variable {fuel : Nat} (patient : Patient fuel)

include patient

theorem Patient.exceeds_value (failed : scanValue (fuel + 1) levels s = .error problem)
    (limit : problem.cause.IsLimit) : Exceeds levels s := by
  rw [scanValue.eq_def] at failed
  dsimp only at failed
  split at failed
  · rcases bind_eq_error_iff.1 failed with text | ⟨_, _, last⟩
    · exact absurd limit (not_isLimit_of_scanText text)
    · cases last
  · rename_i more
    split at failed
    · -- no level is left, and this bracket is one too many
      exact .inl (by simp [isOpening])
    · split at failed
      · cases failed
      · rcases bind_eq_error_iff.1 failed with inner | ⟨_, _, last⟩
        · exact (patient.items inner limit).skipped.opened rfl
        · cases last
  · rename_i more
    split at failed
    · exact .inl (by simp [isOpening])
    · split at failed
      · cases failed
      · rcases bind_eq_error_iff.1 failed with inner | ⟨_, _, last⟩
        · exact (patient.fields inner limit).skipped.opened rfl
        · cases last
  · exact .inr (hasLongRun_of_scanAtom failed limit)

theorem Patient.exceeds_items (failed : scanItems (fuel + 1) levels s = .error problem)
    (limit : problem.cause.IsLimit) : Exceeds levels s := by
  rw [scanItems.eq_def] at failed
  dsimp only at failed
  rcases bind_eq_error_iff.1 failed with first | ⟨⟨item, behind⟩, scanned, more⟩
  · exact patient.value first limit
  · rcases (sound fuel).value scanned with ⟨used, rfl, _⟩
    rcases blank_skip behind with ⟨blanks, whole, _⟩
    dsimp only at more
    split at more
    · cases more
    · rename_i tail comma
      rcases bind_eq_error_iff.1 more with later | ⟨_, _, last⟩
      · rw [whole, comma]
        exact (((patient.items later limit).skipped.append_left [',']).append_left blanks).append_left used
      · cases last
    · cases more
      exact limit.elim

theorem Patient.exceeds_fields (failed : scanFields (fuel + 1) levels s = .error problem)
    (limit : problem.cause.IsLimit) : Exceeds levels s := by
  rw [scanFields.eq_def] at failed
  dsimp only at failed
  split at failed
  · rename_i begun
    rcases bind_eq_error_iff.1 failed with text | ⟨⟨name, behind⟩, labelled, named⟩
    · exact absurd limit (not_isLimit_of_scanText text)
    · rcases saysText_of_scan labelled with ⟨label, rfl, _⟩
      rcases blank_skip behind with ⟨before, whole, _⟩
      dsimp only at named
      split at named
      · rename_i tail colon
        -- what exceeds behind the colon does so in the whole field
        have within (exceeds : Exceeds levels tail) :
            Exceeds levels ('"' :: (label ++ '"' :: behind)) := by
          rw [whole, colon]
          have field := ((exceeds.append_left [':']).append_left before).append_left ['"']
          exact (field.append_left label).append_left ['"']
        rcases bind_eq_error_iff.1 named with first | ⟨⟨v, behind'⟩, scanned, more⟩
        · exact within (patient.value first limit).skipped
        · rcases (sound fuel).value scanned with ⟨used, valued, _⟩
          rcases blank_skip tail with ⟨after, skipped, _⟩
          rcases blank_skip behind' with ⟨blanks, whole', _⟩
          dsimp only at more
          split at more
          · cases more
          · rename_i tail' comma
            rcases bind_eq_error_iff.1 more with later | ⟨_, _, last⟩
            · refine within ?_
              rw [skipped, valued, whole', comma]
              have others := (patient.fields later limit).skipped.append_left [',']
              exact ((others.append_left blanks).append_left used).append_left after
            · cases last
          · cases more
            exact limit.elim
      · cases named
        exact limit.elim
  · cases failed
    exact limit.elim

end Steps

theorem patient (fuel : Nat) : Patient fuel := by
  induction fuel with
  | zero =>
      constructor
      all_goals
        intro levels s problem failed limit
        cases failed
        exact limit.elim
  | succ fuel ih => exact ⟨ih.exceeds_value, ih.exceeds_items, ih.exceeds_fields⟩

/-- Does a reader give up on a document? -/
def GivesUp (document : List Char) : Prop :=
  ∃ problem, decode document = .error problem ∧ problem.cause.IsLimit

/-- A reader gives up on long and deep documents only. -/
theorem GivesUp.exceeds {document : List Char} (givesUp : GivesUp document) :
    Exceeds levelLimit document := by
  rcases givesUp with ⟨problem, failed, limit⟩
  unfold decode at failed
  split at failed
  · cases failed
    exact limit.elim
  · rcases bind_eq_error_iff.1 failed with inner | ⟨_, _, last⟩
    · exact ((patient _).value inner limit).skipped
    · dsimp only at last
      split at last
      · cases last
      · cases last
        exact limit.elim

end DataGateway.Json
