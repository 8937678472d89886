import DataGateway.Proofs.Store.Entry
import Mathlib.Data.List.Perm.Subperm

/-!
# Where keys lead

A key is refused when its file name leads out of the directory by names alone. That is enough: where the
way itself leads to something, through folders and links that are there, the names lead to the same place.
So a link may lead out of the directory, if only it comes back.

The way goes on with the steps of a link in front of the steps that are left, while names are followed
link by link, and no link inside itself. Between the two are names that are followed link by link to a
depth.

* `Meets` — what a step can do, by names or on the way;
* `walk`, `exists_walk_of_visit` — the place that a way leads to is reached by names to some depth;
* `traceSteps_of_walk` — what is reached to a depth is reached by names in general;
* `encloses_visit` — a key that is not refused leads to nothing outside.
-/

namespace DataGateway.Store.Directory

variable {directory : Directory}

/-! ## Steps -/

/-- What a step meets: it stays, it goes up, or it goes down to a link or to something else. -/
inductive Meets (directory : Directory) (here : Path) (step : String) : Prop
  | stay (stays : isStay step = true)
  | up (moves : isStay step = false) (up : (step == "..") = true)
  | link (target : String) (moves : isStay step = false) (plain : (step == "..") = false)
      (linked : directory.look (here ++ [step]) = some (.link target))
  | direct (moves : isStay step = false) (plain : (step == "..") = false)
      (direct : ∀ target, directory.look (here ++ [step]) ≠ some (.link target))

theorem meets (directory : Directory) (here : Path) (step : String) : directory.Meets here step := by
  cases stays : isStay step with
  | true => exact .stay stays
  | false =>
      cases up : step == ".." with
      | true => exact .up stays up
      | false =>
          by_cases linked : ∃ target, directory.look (here ++ [step]) = some (.link target)
          · rcases linked with ⟨target, linked⟩
            exact .link target stays up linked
          · exact .direct stays up (not_exists.1 linked)

/-! ## Names to a depth -/

/-- Where steps lead by their names; `follow` says where a link leads, from its folder and its target. -/
def walkSteps (directory : Directory) (follow : Path → String → Option Path) :
    Path → List String → Option Path
  | here, [] => some here
  | here, step :: rest =>
    if isStay step then walkSteps directory follow here rest
    else if step == ".." then walkSteps directory follow here.dropLast rest
    else
      match directory.look (here ++ [step]) with
      | some (.link target) => (follow here target).bind fun led => walkSteps directory follow led rest
      | _ => walkSteps directory follow (here ++ [step]) rest

/-- Where a link leads, with no more than so many links inside each other. -/
def walk (directory : Directory) : Nat → Path → String → Option Path
  | 0, _, _ => none
  | depth + 1, folder, target =>
    walkSteps directory (walk directory depth) (startOf folder target) (stepsOf target)

section Steps

variable {follow other : Path → String → Option Path} {here path : Path} {step : String}
  {rest : List String}

theorem walkSteps_stay (stays : isStay step = true) :
    walkSteps directory follow here (step :: rest) = walkSteps directory follow here rest :=
  if_pos stays

theorem walkSteps_up (moves : isStay step = false) (up : (step == "..") = true) :
    walkSteps directory follow here (step :: rest) =
      walkSteps directory follow here.dropLast rest := by
  rw [walkSteps, moves, up]
  rfl

section Plain

variable (moves : isStay step = false) (plain : (step == "..") = false)

include moves plain

theorem walkSteps_link {target : String}
    (linked : directory.look (here ++ [step]) = some (.link target)) :
    walkSteps directory follow here (step :: rest) =
      (follow here target).bind fun led => walkSteps directory follow led rest := by
  rw [walkSteps, moves, plain, linked]
  rfl

theorem walkSteps_direct (direct : ∀ target, directory.look (here ++ [step]) ≠ some (.link target)) :
    walkSteps directory follow here (step :: rest) =
      walkSteps directory follow (here ++ [step]) rest := by
  rw [walkSteps, moves, plain, if_neg Bool.false_ne_true, if_neg Bool.false_ne_true]
  split
  · rename_i target linked
    exact absurd linked (direct target)
  · rfl

end Plain

theorem walkSteps_append (steps rest : List String) :
    walkSteps directory follow here (steps ++ rest) =
      (walkSteps directory follow here steps).bind fun led => walkSteps directory follow led rest := by
  induction steps generalizing here with
  | nil => rfl
  | cons step steps ih =>
      rw [List.cons_append]
      cases directory.meets here step with
      | stay stays =>
          rw [walkSteps_stay stays, walkSteps_stay stays]
          exact ih
      | up moves up =>
          rw [walkSteps_up moves up, walkSteps_up moves up]
          exact ih
      | link target moves plain linked =>
          rw [walkSteps_link moves plain linked, walkSteps_link moves plain linked, Option.bind_assoc]
          exact congrArg _ (funext fun led => ih)
      | direct moves plain direct =>
          rw [walkSteps_direct moves plain direct, walkSteps_direct moves plain direct]
          exact ih

/-- Links that lead on further leave the end of a walk as it is. -/
theorem walkSteps_mono
    (more : ∀ folder target led, follow folder target = some led → other folder target = some led)
    {steps : List String} (goes : walkSteps directory follow here steps = some path) :
    walkSteps directory other here steps = some path := by
  induction steps generalizing here with
  | nil => exact goes
  | cons step steps ih =>
      cases directory.meets here step with
      | stay stays =>
          rw [walkSteps_stay stays] at goes ⊢
          exact ih goes
      | up moves up =>
          rw [walkSteps_up moves up] at goes ⊢
          exact ih goes
      | link target moves plain linked =>
          rw [walkSteps_link moves plain linked] at goes ⊢
          rcases Option.bind_eq_some_iff.1 goes with ⟨led, leads, goes⟩
          exact Option.bind_eq_some_iff.2 ⟨led, more _ _ _ leads, ih goes⟩
      | direct moves plain direct =>
          rw [walkSteps_direct moves plain direct] at goes ⊢
          exact ih goes

end Steps

theorem walk_mono {depth deeper : Nat} (le : depth ≤ deeper) {folder path : Path} {target : String}
    (goes : walk directory depth folder target = some path) :
    walk directory deeper folder target = some path := by
  induction depth generalizing deeper folder path target with
  | zero => cases goes
  | succ depth ih =>
      rcases Nat.exists_eq_add_of_le le with ⟨extra, rfl⟩
      rw [Nat.add_right_comm, walk]
      exact walkSteps_mono (fun _ _ _ leads => ih (Nat.le_add_right ..) leads) goes

/-! ## Ways and their names -/

/-- Where a stretch ends its names lead, and up to a link they lead to that. -/
theorem walkSteps_of_stretch (follow : Path → String → Option Path) {here : Path} {steps : List String} :
    (∀ place path, directory.stretch false here steps = .ends place → place.path? = some path →
      walkSteps directory follow here steps = some path) ∧
    ∀ folder target rest, directory.stretch false here steps = .link folder target rest →
      walkSteps directory follow here steps =
        (follow folder target).bind fun led => walkSteps directory follow led rest := by
  induction steps generalizing here with
  | nil =>
      constructor
      · rintro _ _ ⟨⟩ ⟨⟩
        rfl
      · rintro _ _ _ ⟨⟩
  | cons step steps ih =>
      rw [stretch, walkSteps]
      split
      · exact ih
      · split
        · exact ih
        · simp only [Bool.false_and, Bool.false_eq_true, if_false]
          split
          · constructor
            · rintro _ _ ⟨⟩ ⟨⟩
            · rintro _ _ _ ⟨⟩
          · -- only at the end of the way there may be a file or nothing
            have last (place : Place) (own : place.path? = some (here ++ [step])) (other : Place)
                (none : other.path? = none) :
                (∀ found path, Stretch.ends (if steps.isEmpty then place else other) = .ends found →
                    found.path? = some path →
                    walkSteps directory follow (here ++ [step]) steps = some path) ∧
                  ∀ folder target rest,
                    Stretch.ends (if steps.isEmpty then place else other) = .link folder target rest →
                    walkSteps directory follow (here ++ [step]) steps =
                      (follow folder target).bind fun led => walkSteps directory follow led rest := by
              constructor
              · rintro _ path ⟨⟩ ends
                cases steps with
                | nil => exact own.symm.trans ends
                | cons _ _ => cases none.symm.trans ends
              · rintro _ _ _ ⟨⟩
            cases directory.look (here ++ [step]) with
            | none => exact last (.free _) rfl .missing rfl
            | some entry =>
                cases entry with
                | file bytes => exact last (.file _ bytes) rfl .blocked rfl
                | folder => exact ih
                | link target =>
                    constructor
                    · rintro _ _ ⟨⟩
                    · rintro _ _ _ ⟨⟩
                      rfl

/-- Where a way leads, its names lead to some depth. -/
theorem exists_walk_of_visit {left : Nat} {here path : Path} {steps : List String}
    (ends : (directory.visitWithin false left here steps).path? = some path) :
    ∃ depth, walkSteps directory (walk directory depth) here steps = some path := by
  induction left generalizing here steps with
  | zero =>
      unfold visitWithin at ends
      split at ends
      · rename_i place stretched
        exact ⟨0, (walkSteps_of_stretch _).1 _ _ stretched ends⟩
      · cases ends
  | succ left ih =>
      unfold visitWithin at ends
      split at ends
      · rename_i place stretched
        exact ⟨0, (walkSteps_of_stretch _).1 _ _ stretched ends⟩
      · rename_i folder target rest stretched
        rcases ih ends with ⟨depth, goes⟩
        rw [walkSteps_append] at goes
        rcases Option.bind_eq_some_iff.1 goes with ⟨led, leads, goes⟩
        refine ⟨depth + 1, ?_⟩
        rw [(walkSteps_of_stretch (walk directory (depth + 1))).2 _ _ _ stretched]
        refine Option.bind_eq_some_iff.2 ⟨led, leads, ?_⟩
        exact walkSteps_mono (fun _ _ _ further => walk_mono depth.le_succ further) goes

/-! ## By names alone -/

section Names

variable {follow : Path → Path → String → Trace} {here : Path} {step : String} {rest : List String}

theorem traceSteps_stay (stays : isStay step = true) :
    traceSteps directory follow here (step :: rest) = traceSteps directory follow here rest := by
  have named : nameStep here step = here := if_pos stays
  simp [traceSteps, named, stays]

theorem traceSteps_up (moves : isStay step = false) (up : (step == "..") = true) :
    traceSteps directory follow here (step :: rest) =
      traceSteps directory follow here.dropLast rest := by
  have named : nameStep here step = here.dropLast := by
    rw [nameStep, moves, up]
    rfl
  simp [traceSteps, named, moves, up]

section Plain

variable (moves : isStay step = false) (plain : (step == "..") = false)

include moves plain

theorem nameStep_plain : nameStep here step = here ++ [step] := by
  rw [nameStep, moves, plain]
  rfl

theorem traceSteps_link {target : String}
    (linked : directory.look (here ++ [step]) = some (.link target)) :
    traceSteps directory follow here (step :: rest) =
      if (follow (here ++ [step]) here target).circular then
        ⟨nameSteps (follow (here ++ [step]) here target).path rest, true⟩
      else traceSteps directory follow (follow (here ++ [step]) here target).path rest := by
  simp only [traceSteps, nameStep_plain moves plain, moves, plain, Bool.or_self, linked]

theorem traceSteps_direct
    (direct : ∀ target, directory.look (here ++ [step]) ≠ some (.link target)) :
    traceSteps directory follow here (step :: rest) =
      traceSteps directory follow (here ++ [step]) rest := by
  simp only [traceSteps, nameStep_plain moves plain, moves, plain, Bool.or_self]
  split
  · rename_i target _ linked
    exact absurd linked (direct target)
  · rfl

end Plain

end Names

/-- Where a link leads while others are followed already. -/
def followOn (directory : Directory) (fuel : Nat) (followed : List Path) (link folder : Path)
    (target : String) : Trace :=
  if followed.contains link then ⟨link, true⟩
  else traceWithin directory fuel (link :: followed) folder target

theorem traceWithin_succ (fuel : Nat) (followed : List Path) (here : Path) (target : String) :
    traceWithin directory (fuel + 1) followed here target =
      traceSteps directory (followOn directory fuel followed) (startOf here target)
        (stepsOf target) := rfl

/-- Links are among the entries. -/
theorem mem_names_of_link {path : Path} {target : String}
    (linked : directory.look path = some (.link target)) : path ∈ Fields.names directory.entries := by
  unfold look at linked
  split at linked
  · cases linked
  · exact Fields.mem_names_iff.2 (by rw [linked]; rfl)

/-- Is there fuel for every link that is not followed yet? -/
structure Enough (directory : Directory) (fuel : Nat) (followed : List Path) : Prop where
  distinct : followed.Nodup
  known : ∀ link ∈ followed, link ∈ Fields.names directory.entries
  fuel : directory.entries.length ≤ fuel + followed.length

theorem Enough.start (directory : Directory) : Enough directory directory.entries.length [] :=
  ⟨.nil, nofun, Nat.le_add_right ..⟩

/-- There is fuel left for a link that is met for the first time. -/
theorem Enough.exists_fuel {fuel : Nat} {followed : List Path} (enough : Enough directory fuel followed)
    {link : Path} (new : link ∉ followed) (known : link ∈ Fields.names directory.entries) :
    ∃ less, fuel = less + 1 ∧ Enough directory less (link :: followed) := by
  have distinct : (link :: followed).Nodup := List.nodup_cons.2 ⟨new, enough.distinct⟩
  have inside : ∀ other ∈ link :: followed, other ∈ Fields.names directory.entries :=
    List.forall_mem_cons.2 ⟨known, enough.known⟩
  have few : (link :: followed).length ≤ directory.entries.length := by
    have shorter := (distinct.subperm inside).length_le
    rwa [Fields.names, List.length_map] at shorter
  have bound := enough.fuel
  rw [List.length_cons] at few
  refine ⟨fuel - 1, by omega, distinct, inside, ?_⟩
  rw [List.length_cons]
  omega

/-- Do the links that are followed already lead nowhere to a depth? -/
def LeadNowhere (directory : Directory) (depth : Nat) (links : List Path) : Prop :=
  ∀ folder step target, folder ++ [step] ∈ links →
    directory.look (folder ++ [step]) = some (.link target) → walk directory depth folder target = none

/-- A link that leads somewhere does so to a least depth, and not within itself. -/
theorem exists_least_depth {depth : Nat} {folder path : Path} {target : String}
    (goes : walk directory depth folder target = some path) :
    ∃ least, least < depth ∧ walk directory (least + 1) folder target = some path ∧
      walk directory least folder target = none := by
  induction depth with
  | zero => cases goes
  | succ depth ih =>
      cases sooner : walk directory depth folder target with
      | none => exact ⟨depth, depth.lt_succ_self, goes, sooner⟩
      | some other =>
          have same := (walk_mono depth.le_succ sooner).symm.trans goes
          rcases ih (sooner.trans same) with ⟨least, less, leads, nowhere⟩
          exact ⟨least, less.trans depth.lt_succ_self, leads, nowhere⟩

/-- A link leads by its name where it leads to a depth, if the links that are followed already lead
nowhere to any depth that it needs. -/
theorem followOn_of_walk {depth fuel : Nat} {followed : List Path}
    (deeper : ∀ least < depth, ∀ {fuel followed here steps path}, Enough directory fuel followed →
      LeadNowhere directory least followed →
      walkSteps directory (walk directory least) here steps = some path →
      traceSteps directory (followOn directory fuel followed) here steps = ⟨path, false⟩)
    (enough : Enough directory fuel followed) (nowhere : LeadNowhere directory depth followed)
    {here path : Path} {step target : String}
    (linked : directory.look (here ++ [step]) = some (.link target))
    (goes : walk directory depth here target = some path) :
    followOn directory fuel followed (here ++ [step]) here target = ⟨path, false⟩ := by
  have new : here ++ [step] ∉ followed := by
    intro member
    cases (nowhere _ _ _ member linked).symm.trans goes
  rcases enough.exists_fuel new (mem_names_of_link linked) with ⟨less, rfl, left⟩
  rcases exists_least_depth goes with ⟨least, shallow, leads, within⟩
  have alone : LeadNowhere directory least ((here ++ [step]) :: followed) := by
    intro folder other found member otherLinked
    rcases List.mem_cons.1 member with this | before
    · rcases List.append_inj' this rfl with ⟨rfl, last⟩
      cases last
      cases linked.symm.trans otherLinked
      exact within
    · cases sooner : walk directory least folder found with
      | none => rfl
      | some other =>
          cases (nowhere _ _ _ before otherLinked).symm.trans (walk_mono shallow.le sooner)
  rw [followOn, if_neg (by simpa using new), traceWithin_succ]
  exact deeper least shallow left alone leads

/-- Names lead by themselves where they lead to a depth. The induction is on the depth: a link that is
met was not followed before, since then it would lead somewhere within itself. -/
theorem traceSteps_of_walk (depth : Nat) : ∀ {fuel followed here steps path},
    Enough directory fuel followed → LeadNowhere directory depth followed →
    walkSteps directory (walk directory depth) here steps = some path →
    traceSteps directory (followOn directory fuel followed) here steps = ⟨path, false⟩ := by
  induction depth using Nat.strong_induction_on with
  | _ depth deeper =>
      intro fuel followed here steps path enough nowhere goes
      induction steps generalizing here with
      | nil =>
          cases goes
          rfl
      | cons step steps ih =>
          cases directory.meets here step with
          | stay stays =>
              rw [walkSteps_stay stays] at goes
              rw [traceSteps_stay stays]
              exact ih goes
          | up moves up =>
              rw [walkSteps_up moves up] at goes
              rw [traceSteps_up moves up]
              exact ih goes
          | link target moves plain linked =>
              rw [walkSteps_link moves plain linked] at goes
              rcases Option.bind_eq_some_iff.1 goes with ⟨led, leads, goes⟩
              rw [traceSteps_link moves plain linked,
                followOn_of_walk deeper enough nowhere linked leads]
              exact ih goes
          | direct moves plain direct =>
              rw [walkSteps_direct moves plain direct] at goes
              rw [traceSteps_direct moves plain direct]
              exact ih goes

/-- A key that is not refused leads to nothing outside of the directory. -/
theorem encloses_visit {key name : String} {path : Path} (found : directory.resolve key = .ok name)
    (leads : (directory.visit [name]).path? = some path) : directory.encloses path = true := by
  rcases resolve_eq_ok found with ⟨fit, _, rfl, inside⟩
  rcases exists_walk_of_visit leads with ⟨depth, goes⟩
  have traced : directory.trace (fileName key) = ⟨path, false⟩ := by
    have followed := traceSteps_of_walk depth (.start directory) nofun goes
    rw [trace, traceWithin_succ, startOf, isAbsolute_fileName fit, fileName_steps fit]
    exact followed
  rwa [traced] at inside

-- a link may lead out of the directory, from there or from the root on, and come back
example : resolve { entries := [([".daal", "a.json"], .link "../.daal/b.json"),
    ([".daal", "b.json"], .link "/.daal/c.json")] } "a" = .ok "a.json" := rfl

end DataGateway.Store.Directory
