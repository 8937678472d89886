import DataGateway.Proofs.Except
import DataGateway.Sorting.Natural
import Mathlib.Data.List.Basic

/-!
# Sorting loses nothing

Whatever the comparisons say, and if they follow no order at all: what comes out of the natural sort
is a rearrangement of what went in. It is enough that each part passes on all items that it is given.

* `Rearranges` — what comes out of a step are its items, with a rule for each way of putting steps
  together;
* `rearranges_merge` — two runs are merged without loss, forward and backward;
* `sort_perm` — the whole sort, over the runs that it finds and the merges that it does.
-/

namespace DataGateway.Sorting

variable {α ε : Type} {before : α → α → Except ε Bool}

/-! ## Steps -/

/-- If something comes out of a step, it shows the items in some order. -/
def Rearranges {β : Type} (view : β → List α) (items : List α) (x : Except ε β) : Prop :=
  ∀ out, x = .ok out → (view out).Perm items

namespace Rearranges

variable {β γ : Type} {view : β → List α} {items : List α}

theorem ok {out : β} (same : (view out).Perm items) :
    Rearranges view items (.ok out : Except ε β) := by
  rintro _ ⟨⟩
  exact same

theorem bind {x : Except ε γ} {f : γ → Except ε β} (each : ∀ c, Rearranges view items (f c)) :
    Rearranges view items (x >>= f) := by
  intro out ran
  rcases bind_eq_ok_iff.1 ran with ⟨c, _, last⟩
  exact each c out last

/-- The second step is given a rearrangement of what the first one was given. -/
theorem andThen {middle : γ → List α} {part : List α} {x : Except ε γ} {f : γ → Except ε β}
    (first : Rearranges middle part x)
    (second : ∀ c, (middle c).Perm part → Rearranges view items (f c)) :
    Rearranges view items (x >>= f) := by
  intro out ran
  rcases bind_eq_ok_iff.1 ran with ⟨c, went, last⟩
  exact second c (first c went) out last

theorem ite {c : Prop} [Decidable c] {x y : Except ε β} (yes : c → Rearranges view items x)
    (no : ¬c → Rearranges view items y) : Rearranges view items (if c then x else y) := by
  split
  · exact yes ‹c›
  · exact no ‹¬c›

theorem perm {part : List α} {x : Except ε β} (rearranges : Rearranges view part x)
    (same : part.Perm items) : Rearranges view items x :=
  fun out ran => (rearranges out ran).trans same

/-- Items in front of a rest that is merged. -/
theorem after {taken rest : List α} {x : Except ε (Merged α)}
    (first : Rearranges Prod.fst rest x) (same : (taken ++ rest).Perm items) :
    Rearranges Prod.fst items (do return Merged.after taken (← x)) :=
  first.andThen fun _ part => .ok ((part.append_left taken).trans same)

end Rearranges

/-! ## Merging -/

/-- One by one or in stretches, the items are taken from the beginnings of both runs. The two ways take
turns, so the induction is on the fuel and for both of them. -/
theorem rearranges_forward (fuel : Nat) :
    (∀ threshold firstWins secondWins (xs ys : List α), Rearranges Prod.fst (xs ++ ys)
      (stepForward before fuel threshold firstWins secondWins xs ys)) ∧
    ∀ threshold (xs ys : List α),
      Rearranges Prod.fst (xs ++ ys) (gallopForward before fuel threshold xs ys) := by
  classical
  induction fuel with
  | zero =>
      refine ⟨fun _ _ _ xs ys => ?_, fun _ xs ys => ?_⟩
      · cases xs <;> cases ys <;> exact .ok (.refl _)
      · cases ys <;> exact .ok (.refl _)
  | succ fuel ih =>
      rcases ih with ⟨step, gallop⟩
      refine ⟨fun threshold firstWins secondWins xs ys => ?_, fun threshold xs ys => ?_⟩
      · match xs, ys with
        | [], ys => exact .ok (.refl _)
        | x :: xs, [] => exact .ok (.refl _)
        | x :: xs, y :: ys =>
          rw [stepForward]
          refine .bind fun wins => .ite (fun _ => ?_) fun _ => ?_
          · refine .ite (fun none => .ok ?_) fun _ => .ite (fun _ => ?_) fun _ => ?_
            · grind
            · exact .after (gallop _ _ _) (by grind)
            · exact .after (step _ _ _ _ _) (by grind)
          · refine .ite (fun one => .ok ?_) fun _ => .ite (fun _ => ?_) fun _ => ?_
            · grind
            · exact .after (gallop _ _ _) (by grind)
            · exact .after (step _ _ _ _ _) (by grind)
      · match ys with
        | [] => exact .ok (.refl _)
        | y :: ys =>
          rw [gallopForward]
          refine .bind fun place => ?_
          have whole := List.take_append_drop place xs
          refine .ite (fun one => .ok (by grind)) fun _ => ?_
          split
          · exact .ok (by grind)
          · refine .ite (fun none => .ok (by grind)) fun _ => .bind fun stretch => ?_
            have whole := List.take_append_drop stretch ys
            refine .ite (fun none => .ok (by grind)) fun _ => .ite (fun one => .ok (by grind))
              fun _ => .ite (fun _ => ?_) fun _ => ?_
            · exact .after (gallop _ _ _) (by grind)
            · exact .after (step _ _ _ _ _) (by grind)

theorem rearranges_mergeForward (threshold : Nat) (xs ys : List α) :
    Rearranges Prod.fst (xs ++ ys) (mergeForward before threshold xs ys) := by
  classical
  match ys with
  | [] => exact .ok (by simp)
  | y :: ys =>
    refine .ite (fun none => .ok (by grind)) fun _ => .ite (fun one => .ok (by grind)) fun _ => ?_
    rw [map_eq_pure_bind]
    exact .after ((rearranges_forward _).1 _ _ _ _ _) (by grind)

/-- Both runs from their ends on, in front of what is sorted. -/
theorem perm_ends (xs ys sorted : List α) :
    (xs.reverse ++ ys.reverse ++ sorted).Perm (xs ++ ys ++ sorted) :=
  (xs.reverse_perm.append ys.reverse_perm).append_right sorted

/-- The same from the ends of both runs. -/
theorem rearranges_backward (fuel : Nat) :
    (∀ threshold firstWins secondWins (xs ys sorted : List α), Rearranges Prod.fst (xs ++ ys ++ sorted)
      (stepBackward before fuel threshold firstWins secondWins xs ys sorted)) ∧
    ∀ threshold (xs ys sorted : List α), Rearranges Prod.fst (xs ++ ys ++ sorted)
      (gallopBackward before fuel threshold xs ys sorted) := by
  classical
  induction fuel with
  | zero =>
      refine ⟨fun _ _ _ xs ys sorted => ?_, fun _ xs ys sorted => ?_⟩
      · cases xs <;> cases ys <;> exact .ok (perm_ends ..)
      · cases ys <;> exact .ok (perm_ends ..)
  | succ fuel ih =>
      rcases ih with ⟨step, gallop⟩
      refine ⟨fun threshold firstWins secondWins xs ys sorted => ?_, fun threshold xs ys sorted => ?_⟩
      · match xs, ys with
        | [], ys => exact .ok (perm_ends ..)
        | x :: xs, [] => exact .ok (perm_ends ..)
        | x :: xs, y :: ys =>
          rw [stepBackward]
          refine .bind fun wins => .ite (fun _ => ?_) fun _ => ?_
          · refine .ite (fun none => .ok ?_) fun _ => .ite (fun _ => ?_) fun _ => ?_
            · grind
            · exact (gallop _ _ _ _).perm (by grind)
            · exact (step _ _ _ _ _ _).perm (by grind)
          · refine .ite (fun one => .ok ?_) fun _ => .ite (fun _ => ?_) fun _ => ?_
            · grind
            · exact (gallop _ _ _ _).perm (by grind)
            · exact (step _ _ _ _ _ _).perm (by grind)
      · match ys with
        | [] => exact .ok (perm_ends ..)
        | y :: ys =>
          rw [gallopBackward]
          refine .bind fun place => ?_
          have whole := List.take_append_drop (xs.length - place) xs
          dsimp only
          generalize xs.take (xs.length - place) = taken at whole ⊢
          split
          · rename_i none
            exact .ok (by grind)
          · rename_i x rest left
            rw [left] at whole
            subst whole
            clear left
            refine .ite (fun one => .ok ?_) fun _ => .bind fun place => ?_
            · grind
            have whole := List.take_append_drop (ys.length - place) ys
            generalize ys.take (ys.length - place) = passed at whole ⊢
            generalize ys.drop (ys.length - place) = others at whole ⊢
            subst whole
            refine .ite (fun one => .ok ?_) fun _ => .ite (fun none => .ok ?_) fun _ =>
              .ite (fun last => .ok ?_) fun _ => .ite (fun _ => ?_) fun _ => ?_
            · grind
            · grind
            · grind
            · exact (gallop _ _ _ _).perm (by grind)
            · exact (step _ _ _ _ _ _).perm (by grind)

theorem rearranges_mergeBackward (threshold : Nat) (xs ys : List α) :
    Rearranges Prod.fst (xs ++ ys) (mergeBackward before threshold xs ys) := by
  classical
  have turned := xs.reverse_reverse
  unfold mergeBackward
  split
  · rename_i none
    exact .ok (by grind)
  · rename_i x rest split
    rw [split] at turned
    subst turned
    refine .ite (fun one => .ok ?_) fun _ => .ite (fun one => .ok ?_) fun _ => ?_
    · grind
    · grind
    · exact ((rearranges_backward _).1 _ _ _ _ _ _).perm (by grind)

/-- What is in place at either end is left out and put back. -/
theorem rearranges_merge (threshold : Nat) (xs ys : List α) :
    Rearranges Prod.fst (xs ++ ys) (merge before threshold xs ys) := by
  classical
  match ys with
  | [] => exact .ok (by simp)
  | y :: rest =>
    refine .bind fun start => ?_
    have whole := List.take_append_drop start xs
    dsimp only
    generalize xs.take start = ahead at whole ⊢
    generalize xs.drop start = xs at whole ⊢
    subst whole
    split
    · rename_i none
      exact .ok (by grind)
    · refine .bind fun stop => ?_
      have whole := List.take_append_drop stop (y :: rest)
      generalize (y :: rest).take stop = ys at whole ⊢
      generalize (y :: rest).drop stop = behind at whole ⊢
      rw [← whole]
      have enclosed {middle : List α} (same : middle.Perm (xs ++ ys)) :
          (ahead ++ middle ++ behind).Perm (ahead ++ xs ++ (ys ++ behind)) := by
        grind
      refine .ite (fun none => .ok (enclosed ?_)) fun _ => .ite (fun _ => ?_) fun _ => ?_
      · grind
      · exact (rearranges_mergeForward _ _ _).andThen fun _ same => .ok (enclosed same)
      · exact (rearranges_mergeBackward _ _ _).andThen fun _ same => .ok (enclosed same)

/-! ## Runs -/

theorem append_of_runFrom {falling : Bool} {last : α} {items run rest : List α}
    (ran : runFrom before falling last items = .ok (run, rest)) : run ++ rest = items := by
  induction items generalizing last run rest with
  | nil =>
      cases ran
      rfl
  | cons item items ih =>
      rcases bind_eq_ok_iff.1 ran with ⟨answer, _, ran⟩
      split at ran
      · rcases bind_eq_ok_iff.1 ran with ⟨⟨run, rest⟩, went, ran⟩
        cases ran
        rw [List.cons_append, ih went]
      · cases ran
        rfl

/-- The first run of some items has one item at least, and what follows is the rest. -/
theorem rearranges_firstRun (items : List α) :
    Rearranges (fun parts => parts.1 ++ parts.2) items (firstRun before items) := by
  match items with
  | [] => exact .ok (.refl _)
  | [_] => exact .ok (.refl _)
  | a :: b :: rest =>
    refine .bind fun falling => ?_
    intro parts ran
    rcases bind_eq_ok_iff.1 ran with ⟨⟨run, rest⟩, went, ran⟩
    rw [← append_of_runFrom went]
    cases ran
    cases falling with
    | true => exact ((a :: b :: run).reverse_perm).append_right rest
    | false => exact .refl _

theorem rearranges_insertAll (sorted items : List α) :
    Rearranges id (sorted ++ items) (insertAll before sorted items) := by
  classical
  induction items generalizing sorted with
  | nil => exact .ok (by simp)
  | cons item rest ih =>
      refine .bind fun place => (ih _).perm ?_
      have whole := List.take_append_drop place sorted
      generalize sorted.take place = ahead at whole ⊢
      generalize sorted.drop place = behind at whole ⊢
      grind

theorem rearranges_extendedRun (least : Nat) (items : List α) :
    Rearranges (fun parts => parts.1 ++ parts.2) items (extendedRun before least items) := by
  refine (rearranges_firstRun items).andThen fun ⟨run, rest⟩ same => ?_
  refine (rearranges_insertAll run (rest.take (least - run.length))).andThen fun extended more => .ok ?_
  have joined := more.append_right (rest.drop (least - run.length))
  rw [List.append_assoc, List.take_append_drop] at joined
  exact joined.trans same

/-- At least one item goes into the run. -/
theorem length_lt_of_extendedRun {least : Nat} {item : α} {items run rest : List α}
    (ran : extendedRun before least (item :: items) = .ok (run, rest)) :
    rest.length < (item :: items).length := by
  rcases bind_eq_ok_iff.1 ran with ⟨⟨first, behind⟩, found, ran⟩
  rcases bind_eq_ok_iff.1 ran with ⟨_, _, ran⟩
  cases ran
  have whole := (rearranges_firstRun _ _ found).length_eq
  have some : 0 < first.length := by
    cases items with
    | nil =>
        cases found
        exact Nat.one_pos
    | cons b items =>
        rcases bind_eq_ok_iff.1 found with ⟨falling, _, found⟩
        rcases bind_eq_ok_iff.1 found with ⟨⟨run, rest⟩, _, found⟩
        cases found
        cases falling <;> simp
  simp only [List.length_append, List.length_drop, List.length_cons] at whole ⊢
  omega

/-! ## The whole sort -/

/-- The items of the runs that wait. -/
def contents (runs : List (Waiting α)) : List α := runs.flatMap (·.items)

theorem contents_cons (run : Waiting α) (runs : List (Waiting α)) :
    contents (run :: runs) = run.items ++ contents runs := rfl

theorem rearranges_join (threshold : Nat) (ahead last : Waiting α) :
    Rearranges (fun out => out.1.items) (ahead.items ++ last.items)
      (join before threshold ahead last) :=
  (rearranges_merge threshold ahead.items last.items).andThen fun _ same => .ok same

theorem rearranges_collapse (power fuel threshold : Nat) (runs : List (Waiting α)) :
    Rearranges (fun out => contents out.1) (contents runs)
      (collapse before power fuel threshold runs) := by
  classical
  induction fuel generalizing threshold runs with
  | zero => exact .ok (.refl _)
  | succ fuel ih =>
      match runs with
      | [] => exact .ok (.refl _)
      | [_] => exact .ok (.refl _)
      | last :: ahead :: rest =>
        refine .ite (fun _ => ?_) fun _ => .ok (.refl _)
        refine (rearranges_join threshold ahead last).andThen fun joined same => (ih _ _).perm ?_
        simp only [contents_cons]
        grind

theorem rearranges_push (total threshold : Nat) (runs : List (Waiting α)) (items : List α) :
    Rearranges (fun out => contents out.1) (items ++ contents runs)
      (push before total threshold runs items) := by
  match runs with
  | [] => exact .ok (.refl _)
  | last :: rest =>
    refine (rearranges_collapse _ _ threshold (last :: rest)).andThen fun out same => ?_
    split
    · exact .ok (same.append_left items)
    · exact .ok (same.append_left items)

/-- Each run takes an item at least, so there is fuel for all of them. -/
theorem rearranges_gather (total least fuel threshold : Nat) (runs : List (Waiting α)) (items : List α)
    (enough : items.length ≤ fuel) :
    Rearranges (fun out => contents out.1) (items ++ contents runs)
      (gather before total least fuel threshold runs items) := by
  classical
  induction fuel generalizing threshold runs items with
  | zero =>
      obtain rfl : items = [] := List.eq_nil_of_length_eq_zero (Nat.le_zero.1 enough)
      exact .ok (.refl _)
  | succ fuel ih =>
      cases items with
      | nil => exact .ok (.refl _)
      | cons item items =>
          intro out ran
          rcases bind_eq_ok_iff.1 ran with ⟨⟨run, rest⟩, found, ran⟩
          rcases bind_eq_ok_iff.1 ran with ⟨⟨pushed, threshold⟩, waits, ran⟩
          have shorter := length_lt_of_extendedRun found
          have split : (run ++ rest).Perm (item :: items) := rearranges_extendedRun _ _ _ found
          have waiting : (contents pushed).Perm (run ++ contents runs) :=
            rearranges_push _ _ _ _ _ waits
          have gathered : (contents out.1).Perm (rest ++ contents pushed) :=
            ih _ _ _ (by omega) out ran
          grind

theorem perm_contents (runs : List (Waiting α)) :
    (runs.reverse.flatMap (·.items)).Perm (contents runs) :=
  runs.reverse_perm.flatMap_right _

theorem rearranges_finish_pair (fuel threshold : Nat) (last first : Waiting α) :
    Rearranges id (contents [last, first]) (finish before fuel threshold [last, first]) := by
  have swapped : (first.items ++ last.items).Perm (contents [last, first]) := by
    simpa [contents] using List.perm_append_comm
  cases fuel <;>
    exact (rearranges_join threshold first last).andThen fun _ same => .ok (same.trans swapped)

theorem rearranges_finish (fuel threshold : Nat) (runs : List (Waiting α)) :
    Rearranges id (contents runs) (finish before fuel threshold runs) := by
  classical
  induction fuel generalizing threshold runs with
  | zero =>
      match runs with
      | [] => exact .ok (.refl _)
      | [_] => exact .ok (perm_contents _)
      | [last, first] => exact rearranges_finish_pair _ _ _ _
      | _ :: _ :: _ :: _ => exact .ok (perm_contents _)
  | succ fuel ih =>
      match runs with
      | [] => exact .ok (.refl _)
      | [_] => exact .ok (perm_contents _)
      | [last, first] => exact rearranges_finish_pair _ _ _ _
      | last :: middle :: first :: rest =>
        refine .ite (fun _ => ?_) fun _ => ?_
        · refine (rearranges_join threshold first middle).andThen fun joined same => (ih _ _).perm ?_
          simp only [contents_cons]
          grind
        · refine (rearranges_join threshold middle last).andThen fun joined same => (ih _ _).perm ?_
          simp only [contents_cons]
          grind

/-- Whatever the comparisons say, sorting loses nothing and adds nothing. -/
theorem sort_perm {items sorted : List α} (ran : sort before items = .ok sorted) :
    sorted.Perm items := by
  have whole : Rearranges id items (sort before items) := by
    refine (rearranges_gather _ _ _ _ [] items (Nat.le_refl _)).andThen fun out same => ?_
    exact (rearranges_finish _ _ _).perm (same.trans (by simp [contents]))
  exact whole sorted ran

end DataGateway.Sorting
