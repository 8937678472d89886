import DataGateway.Proofs.Store.Equivalence
import DataGateway.Proofs.Store.Ways

/-!
# Ways past a new file

A file is put in the place of an entry that was none, or a file too. By names every way then leads where
it led before, and when it is gone it ends where it ended before, or at the file, or it is blocked by the
file where something was missing.

* `trace_congr` — by names a way depends on nothing but the links of a directory;
* `visit_withFile` — where a way ends;
* `read_withFile` — what is read under other keys, unless they are links to the file.
-/

namespace DataGateway.Store.Directory

variable {directory other : Directory}

/-! ## The same links -/

/-- Do links of the same targets lie under the same paths? -/
def SameLinks (directory other : Directory) : Prop :=
  ∀ path target, directory.look path = some (.link target) ↔
    other.look path = some (.link target)

section SameLinks

variable (same : SameLinks directory other)

include same

theorem traceSteps_congr {follow follow' : Path → Path → String → Trace}
    (alike : ∀ path folder target, directory.look path = some (.link target) →
      follow path folder target = follow' path folder target) (here : Path) (steps : List String) :
    traceSteps directory follow here steps = traceSteps other follow' here steps := by
  induction steps generalizing here with
  | nil => rfl
  | cons step steps ih =>
      cases directory.meets here step with
      | stay stays =>
          rw [traceSteps_stay stays, traceSteps_stay stays]
          exact ih _
      | up moves up =>
          rw [traceSteps_up moves up, traceSteps_up moves up]
          exact ih _
      | link target moves plain linked =>
          rw [traceSteps_link moves plain linked,
            traceSteps_link moves plain ((same _ _).1 linked), alike _ _ _ linked, ih]
      | direct moves plain direct =>
          rw [traceSteps_direct moves plain direct,
            traceSteps_direct moves plain fun target there => direct target ((same _ _).2 there)]
          exact ih _

theorem followOn_congr {fuel more : Nat} {followed : List Path}
    (enough : Enough directory fuel followed) (enough' : Enough other more followed)
    {link folder : Path} {target : String}
    (linked : directory.look link = some (.link target)) :
    followOn directory fuel followed link folder target =
      followOn other more followed link folder target := by
  induction fuel generalizing more followed link folder target with
  | zero =>
      by_cases again : link ∈ followed
      · rw [followOn, followOn, if_pos (by simpa using again), if_pos (by simpa using again)]
      · rcases enough.exists_fuel again (mem_names_of_link linked) with ⟨_, none, _⟩
        exact absurd none.symm (Nat.succ_ne_zero _)
  | succ fuel ih =>
      by_cases again : link ∈ followed
      · rw [followOn, followOn, if_pos (by simpa using again), if_pos (by simpa using again)]
      · have linked' := (same _ _).1 linked
        rcases enough.exists_fuel again (mem_names_of_link linked) with ⟨_, ⟨⟩, left⟩
        rcases enough'.exists_fuel again (mem_names_of_link linked') with ⟨less, rfl, left'⟩
        rw [followOn, followOn, if_neg (by simpa using again), if_neg (by simpa using again),
          traceWithin_succ, traceWithin_succ]
        exact traceSteps_congr same (fun _ _ _ there => ih left left' there) _ _

theorem trace_congr (based : directory.base = other.base) (target : String) :
    directory.trace target = other.trace target := by
  rw [trace, trace, traceWithin_succ, traceWithin_succ, based]
  exact traceSteps_congr same
    (fun _ _ _ linked => followOn_congr same (.start directory) (.start other) linked) _ _

end SameLinks

/-! ## Where ways end -/

/-- The directory with a file under a name. -/
abbrev withFile (directory : Directory) (name : String) (bytes : List UInt8) : Directory :=
  directory.put (directory.own name) (.file bytes)

/-- What becomes of a place when a file is put under a path. -/
inductive Shifts (path : Path) (bytes : List UInt8) : Place → Place → Prop
  | free : Shifts path bytes (.free path) (.file path bytes)
  | file (old : List UInt8) : Shifts path bytes (.file path old) (.file path bytes)
  | missing : Shifts path bytes .missing .blocked

theorem Shifts.endless {path : Path} {bytes : List UInt8} {place shifted : Place}
    (shifts : Shifts path bytes place shifted) : (shifted == .endless) = (place == .endless) := by
  cases shifts <;> rfl

section Set

variable {name : String} (plain : directory.IsPlain name) (bytes : List UInt8)

include plain

theorem sameLinks_withFile : SameLinks (directory.withFile name bytes) directory := by
  intro path target
  cases own : path == directory.own name with
  | false => rw [look_put_of_ne own]
  | true =>
      rw [eq_of_beq own, look_put_self]
      rcases plain with free | ⟨old, file⟩
      · rw [free]
        simp
      · rw [file]
        simp

theorem stretch_withFile (here : Path) (steps : List String) :
    (directory.withFile name bytes).stretch false here steps =
        directory.stretch false here steps ∨
      ∃ place shifted, directory.stretch false here steps = .ends place ∧
        (directory.withFile name bytes).stretch false here steps = .ends shifted ∧
        Shifts (directory.own name) bytes place shifted := by
  induction steps generalizing here with
  | nil => exact .inl rfl
  | cons step steps ih =>
      rw [stretch, stretch]
      split
      · exact ih here
      · split
        · exact ih here.dropLast
        · simp only [Bool.false_and, Bool.false_eq_true, if_false]
          split
          · exact .inl rfl
          · cases own : here ++ [step] == directory.own name with
            | false =>
                rw [look_put_of_ne own]
                cases directory.look (here ++ [step]) with
                | none => exact .inl rfl
                | some entry =>
                    cases entry with
                    | folder => exact ih _
                    | _ => exact .inl rfl
            | true =>
                rw [eq_of_beq own, look_put_self]
                rcases plain with free | ⟨old, file⟩
                · rw [free]
                  cases steps with
                  | nil => exact .inr ⟨_, _, rfl, rfl, .free⟩
                  | cons _ _ => exact .inr ⟨_, _, rfl, rfl, .missing⟩
                · rw [file]
                  cases steps with
                  | nil => exact .inr ⟨_, _, rfl, rfl, .file old⟩
                  | cons _ _ => exact .inl rfl

theorem visitWithin_withFile (left : Nat) (here : Path) (steps : List String) :
    (directory.withFile name bytes).visitWithin false left here steps =
        directory.visitWithin false left here steps ∨
      Shifts (directory.own name) bytes (directory.visitWithin false left here steps)
        ((directory.withFile name bytes).visitWithin false left here steps) := by
  induction left generalizing here steps with
  | zero =>
      unfold visitWithin
      rcases stretch_withFile plain bytes here steps with same | ⟨place, shifted, was, is, shifts⟩
      · rw [same]
        exact .inl rfl
      · rw [was, is]
        exact .inr shifts
  | succ left ih =>
      unfold visitWithin
      rcases stretch_withFile plain bytes here steps with same | ⟨place, shifted, was, is, shifts⟩
      · rw [same]
        cases directory.stretch false here steps with
        | ends place => exact .inl rfl
        | link folder target rest => exact ih (startOf folder target) _
      · rw [was, is]
        exact .inr shifts

theorem visit_withFile (steps : List String) :
    (directory.withFile name bytes).visit steps = directory.visit steps ∨
      Shifts (directory.own name) bytes (directory.visit steps)
        ((directory.withFile name bytes).visit steps) :=
  visitWithin_withFile plain bytes linkLimit directory.base steps

theorem resolve_withFile (key : String) :
    (directory.withFile name bytes).resolve key = directory.resolve key := by
  have endless (steps : List String) :
      ((directory.withFile name bytes).visitFromRoot steps == .endless) =
        (directory.visitFromRoot steps == .endless) := by
    rcases visitWithin_withFile plain bytes linkLimit [] steps with same | shifts
    · rw [visitFromRoot, same]
      rfl
    · exact shifts.endless
  have inside (path : Path) :
      (directory.withFile name bytes).encloses path = directory.encloses path := rfl
  unfold resolve
  simp only [trace_congr (sameLinks_withFile plain bytes) rfl, endless, inside]

end Set

/-! ## Other keys -/

variable {key reader : String}

/-- The path that a file has, or would have if it were made. -/
def Place.target? : Place → Option Path
  | .file path _ | .free path => some path
  | _ => none

/-- Is the entry of one key a link that leads to the place of the entry of another? -/
structure LinksTo (directory : Directory) (reader key : String) : Prop where
  link : ∃ target, directory.look (directory.own (fileName reader)) = some (.link target)
  leads : (directory.visit [fileName reader]).target? = some (directory.own (fileName key))

/-- Without a link the way of a key ends at its own entry. -/
theorem linksTo_of_visit (fit : isKey reader = true) (apart : reader ≠ key)
    (leads : (directory.visit [fileName reader]).target? = some (directory.own (fileName key))) :
    directory.LinksTo reader key := by
  refine ⟨?_, leads⟩
  rcases Nat.lt_or_ge nameLimit (Text.Utf8.size (fileName reader)) with long | short
  · rw [visit_long fit long] at leads
    cases leads
  · have own (leads : some (directory.own (fileName reader)) =
        some (directory.own (fileName key))) : False := apart (file_eq_iff.1 (Option.some.inj leads))
    cases found : directory.look (directory.own (fileName reader)) with
    | none =>
        rw [visit_free fit short found] at leads
        exact (own leads).elim
    | some entry =>
        cases entry with
        | link target => exact ⟨target, rfl⟩
        | file bytes =>
            rw [visit_file fit short found] at leads
            exact (own leads).elim
        | folder =>
            rw [visit, visitWithin, stretch_fileName fit short, found] at leads
            cases leads

/-- A file that is put in the place of an entry is read under no other key, unless a link leads to it. -/
theorem read_withFile {bytes : List UInt8} (plain : directory.IsPlain (fileName key))
    (apart : reader ≠ key) (unlinked : ¬directory.LinksTo reader key) :
    (directory.withFile (fileName key) bytes).read reader = directory.read reader := by
  unfold read
  rw [resolve_withFile plain bytes]
  cases found : directory.resolve reader with
  | error fault => simp only [bind, Except.bind]
  | ok name =>
      rcases resolve_eq_ok found with ⟨fit, _, rfl, _⟩
      have led := mt (linksTo_of_visit fit apart) unlinked
      simp only [bind, Except.bind]
      rcases visit_withFile plain bytes [fileName reader] with same | shifts
      · rw [same]
      · generalize directory.visit [fileName reader] = was at shifts led ⊢
        generalize (directory.withFile (fileName key) bytes).visit [fileName reader] = is
          at shifts ⊢
        cases shifts with
        | free => exact absurd rfl led
        | file old => exact absurd rfl led
        | missing => rfl

end DataGateway.Store.Directory
