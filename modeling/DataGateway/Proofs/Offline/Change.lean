import DataGateway.Offline.Row
import DataGateway.Proofs.Calendar.Stamp
import DataGateway.Proofs.Except
import DataGateway.Proofs.Fields
import DataGateway.Proofs.Gateway.Action
import DataGateway.Proofs.Number.Binary64
import Mathlib.Algebra.GroupWithZero.Nat

/-!
# Times of change

A changed row says when it was changed, and later than it said before, whatever the clock does. So no
sequence of changes leads back to the table it began with.

* `exists_generateId` — a clock within the calendar always gives an id;
* `advance_later`, `change_later` — the time of change goes forward;
* `weight` — what every change of a table adds to.
-/

namespace DataGateway.Offline

open Calendar

variable {moment : Moment}

/-! ## Clocks -/

/-- Does the clock stand within the years 1 to 9999, whenever it is read? -/
structure Moment.InCalendar (moment : Moment) : Prop where
  now : (Stamp.utc moment.now).IsValid
  later : ∀ reading ∈ moment.later, (Stamp.utc reading.1).IsValid

theorem Moment.InCalendar.next (clock : moment.InCalendar) : moment.next.InCalendar := by
  unfold Moment.next
  split
  · exact clock
  · rename_i readings
    have valid := clock.later
    rw [readings] at valid
    rcases List.forall_mem_cons.1 valid with ⟨now, later⟩
    exact ⟨now, later⟩

theorem Moment.exists_millis (clock : moment.InCalendar) :
    ∃ millis, moment.millis = .ok millis := by
  have first : (Date.toDays ⟨1, 1, 1⟩) * day = -62135596800000000 := by decide
  have last : Stamp.lastClock = 253402300799999999 := by decide
  -- in microseconds the calendar is well inside of what a float can hold
  have small : moment.now.natAbs < power 2 58 := by
    have lower := clock.now.first
    have upper := clock.now.last
    have bound : power 2 58 = 288230376151711744 := by decide
    rw [first] at lower
    rw [last] at upper
    simp only [Stamp.utc] at lower upper
    rw [bound]
    omega
  rcases Binary64.exists_ofQuotient? 1000000 (by decide) small with ⟨seconds, rounded, units⟩
  rcases Binary64.exists_scale (moment.now < 0) (by decide) (by decide) units with
    ⟨scaled, finite⟩
  have whole (seconds : Binary64) (same : seconds.scale 1000 = .finite (moment.now < 0) scaled) :
      (Value.float (seconds.scale 1000)).asWhole =
        .ok (Binary64.truncate (moment.now < 0) scaled) := by
    rw [same]
    rfl
  have known : (Binary64.ofQuotient? moment.now 1000000).getD .nan =
      .finite (moment.now < 0) seconds := by
    rw [rounded]
    rfl
  refine ⟨Binary64.truncate (moment.now < 0) scaled, ?_⟩
  rw [Moment.millis, known]
  exact whole _ finite

/-- A clock within the calendar always gives an id. -/
theorem exists_generateId (clock : moment.InCalendar) (backend : Backend) :
    ∃ id after, Backend.generateId moment backend = (.ok id, after) ∧
      after.tables = backend.tables := by
  rcases Moment.exists_millis clock with ⟨millis, whole⟩
  exact ⟨_, _, Action.ofExcept_bind_ok whole _ backend, rfl⟩

/-! ## Times -/

/-- The stamp that a value is the text of. -/
def stampOf? : Value → Option Stamp
  | .text s => Stamp.parse? s
  | _ => none

/-- The time at which a row says that it was changed. -/
def changedAt? : Value → Option Stamp
  | .object fields => (Fields.get? fields "updated_at").bind stampOf?
  | _ => none

theorem isOffset_zero : Stamp.IsOffset 0 := ⟨by decide, fun _ => rfl⟩

theorem parse?_stamp (clock : moment.InCalendar) :
    Stamp.parse? moment.stamp = some (Stamp.utc moment.now) := Stamp.parse?_text clock.now

/-- The next stamp after one that a text says, if the calendar has a next one. -/
theorem isValid_succ {stamp : Stamp} (valid : stamp.IsValid) (more : stamp.clock < Stamp.lastClock) :
    (Stamp.mk (stamp.clock + 1) (some (stamp.offset.getD 0))).IsValid := by
  refine ⟨?_, ?_, ?_⟩
  · exact Int.le_trans valid.first (Int.le_add_one (Int.le_refl _))
  · exact Int.add_one_le_of_lt more
  · intro offset same
    cases same
    cases known : stamp.offset with
    | none => exact isOffset_zero
    | some offset => exact valid.offset offset known

/-- The time of change goes forward, and not behind the clock. -/
theorem advance_later (clock : moment.InCalendar) {previous : Value} {text : String}
    (h : advance moment previous = .ok text) :
    ∃ stamp, Stamp.parse? text = some stamp ∧ moment.now ≤ stamp.instant ∧
      ∀ before ∈ stampOf? previous, before.instant < stamp.instant := by
  have now : (Stamp.utc moment.now).instant = moment.now := by simp [Stamp.instant, Stamp.utc]
  -- in all cases but one the new time is that of the clock
  have ticking (fresh : ∀ before ∈ stampOf? previous, before.instant < moment.now)
      (same : moment.stamp = text) :
      ∃ stamp, Stamp.parse? text = some stamp ∧ moment.now ≤ stamp.instant ∧
        ∀ before ∈ stampOf? previous, before.instant < stamp.instant := by
    rw [← same]
    refine ⟨Stamp.utc moment.now, parse?_stamp clock, ?_, ?_⟩
    · exact Int.le_of_eq now.symm
    · rw [now]
      exact fresh
  unfold advance at h
  split at h
  · rename_i s
    have said : stampOf? (.text s) = Stamp.parse? s := rfl
    split at h
    · rename_i before parsed
      split at h
      · rename_i ahead
        split at h
        · rename_i more
          rw [← Except.ok.inj h]
          -- the row is from the future: it goes one microsecond further
          have valid := isValid_succ (Stamp.isValid_of_parse? parsed) more
          refine ⟨_, Stamp.parse?_text valid, ?_, ?_⟩
          · exact Int.le_trans ahead (Int.sub_le_sub_right (Int.le_add_one (Int.le_refl _)) _)
          · intro other same
            rw [said, parsed] at same
            cases same
            exact Int.sub_lt_sub_right (Int.lt_add_one_of_le (Int.le_refl _)) _
        · cases h
      · rename_i behind
        refine ticking ?_ (Except.ok.inj h)
        intro other same
        rw [said, parsed] at same
        cases same
        exact Int.not_le.1 behind
    · rename_i unknown
      refine ticking ?_ (Except.ok.inj h)
      intro other same
      rw [said, unknown] at same
      cases same
  · rename_i kind
    refine ticking ?_ (Except.ok.inj h)
    intro other same
    cases previous with
    | text s => exact absurd rfl (kind s)
    | _ => cases same

theorem change_ok {row patch new : Value} (h : change moment row patch = .ok new) :
    ∃ fields update text, row = .object fields ∧ patch = .object update ∧
      advance moment ((Fields.get? fields "updated_at").getD .null) = .ok text ∧
      new = .object (Fields.set (Fields.merge fields update) "updated_at" (.text text)) := by
  rcases bind_eq_ok_iff.1 h with ⟨fields, row', h⟩
  rcases bind_eq_ok_iff.1 h with ⟨update, patch', h⟩
  rcases bind_eq_ok_iff.1 h with ⟨text, advanced, h⟩
  cases h
  cases row <;> cases row'
  cases patch <;> cases patch'
  exact ⟨_, _, text, rfl, rfl, advanced, rfl⟩

/-- A changed row says that it was changed later than it said before. -/
theorem change_later (clock : moment.InCalendar) {row patch new : Value}
    (h : change moment row patch = .ok new) :
    ∃ stamp, changedAt? new = some stamp ∧ moment.now ≤ stamp.instant ∧
      ∀ before ∈ changedAt? row, before.instant < stamp.instant := by
  rcases change_ok h with ⟨fields, update, text, rfl, rfl, advanced, rfl⟩
  rcases advance_later clock advanced with ⟨stamp, parsed, current, later⟩
  refine ⟨stamp, ?_, current, ?_⟩
  · simp only [changedAt?, Fields.get?_set_self, Option.bind_some]
    exact parsed
  · intro before known
    -- the patch cannot hide the old time, which is read from the row itself
    apply later
    cases found : Fields.get? fields "updated_at" with
    | none =>
        rw [changedAt?, found] at known
        cases known
    | some v =>
        rw [changedAt?, found] at known
        exact known

/-! ## Ages -/

/-- Before every moment that a text can say. -/
def dawn : Int := Date.toDays ⟨1, 1, 1⟩ * day - day

/-- How far from the dawn a row was changed; nothing for a row that does not say when. -/
def age (row : Value) : Nat :=
  match changedAt? row with
  | some stamp => (stamp.instant - dawn).toNat
  | none => 0

theorem dawn_lt_instant {stamp : Stamp} (valid : stamp.IsValid) : dawn < stamp.instant := by
  have first := valid.first
  -- an instant is the clock less the distance from UTC, and that is below a day
  have near : stamp.offset.getD 0 < day := by
    cases known : stamp.offset with
    | none => exact (by decide : (0 : Int) < day)
    | some offset =>
        have bound := (valid.offset offset known).1
        simp only [Option.getD_some]
        omega
  simp only [dawn, Stamp.instant]
  omega

theorem isValid_of_changedAt? {row : Value} {stamp : Stamp} (h : changedAt? row = some stamp) :
    stamp.IsValid := by
  cases row with
  | object fields =>
      rcases Option.bind_eq_some_iff.1 h with ⟨v, _, parsed⟩
      cases v with
      | text s => exact Stamp.isValid_of_parse? parsed
      | _ => cases parsed
  | _ => cases h

theorem age_lt_of_change (clock : moment.InCalendar) {row patch new : Value}
    (h : change moment row patch = .ok new) : age row < age new := by
  rcases change_later clock h with ⟨stamp, changed, _, later⟩
  have risen := dawn_lt_instant (isValid_of_changedAt? changed)
  unfold age
  rw [changed]
  cases known : changedAt? row with
  | none =>
      dsimp only
      omega
  | some before =>
      have earlier := later before known
      dsimp only
      omega

theorem ne_of_change (clock : moment.InCalendar) {row patch new : Value}
    (h : change moment row patch = .ok new) : new ≠ row := by
  intro same
  have older := age_lt_of_change clock h
  rw [same] at older
  exact Nat.lt_irrefl _ older

/-! ## Weights -/

/-- The ages of the rows of a table, and one for each row. -/
def weight (rows : Table) : Nat := (rows.map fun row => age row + 1).sum

theorem weight_lt_append (rows : Table) (new : Value) : weight rows < weight (rows ++ [new]) := by
  simp only [weight, List.map_append, List.map_cons, List.map_nil, List.sum_append, List.sum_cons,
    List.sum_nil]
  omega

theorem weight_lt_set {rows : Table} {index : Nat} {new : Value} (inside : index < rows.length)
    (older : age (rows.getD index .null) < age new) : weight rows < weight (rows.set index new) := by
  -- the place moves down with the rows
  induction rows generalizing index with
  | nil => cases inside
  | cons row rows ih =>
      cases index with
      | zero =>
          have here : age row < age new := older
          simp only [weight, List.set_cons_zero, List.map_cons, List.sum_cons]
          omega
      | succ index =>
          have rest := ih (Nat.lt_of_succ_lt_succ inside) older
          simp only [weight, List.set_cons_succ, List.map_cons, List.sum_cons] at rest ⊢
          omega

/-! ## Changes of some rows -/

section Steps

variable {test : Value → Except Fault Bool} {change : Value → Except Fault Value} {row new : Value}
  {rows : Table} {fault : Fault}

theorem changeRows_untested (failed : test row = .error fault) :
    changeRows test change (row :: rows) = (row :: rows, .error fault) := by
  simp [changeRows, failed, bind, Except.bind]

theorem changeRows_passed (passed : test row = .ok false) : changeRows test change (row :: rows) =
    (row :: (changeRows test change rows).1, (changeRows test change rows).2) := by
  simp [changeRows, passed, bind, Except.bind, pure, Except.pure]

theorem changeRows_unchanged (picked : test row = .ok true) (failed : change row = .error fault) :
    changeRows test change (row :: rows) = (row :: rows, .error fault) := by
  simp [changeRows, picked, failed, bind, Except.bind, Functor.map, Except.map]

theorem changeRows_changed (picked : test row = .ok true) (changed : change row = .ok new) :
    changeRows test change (row :: rows) =
      (new :: (changeRows test change rows).1, (new :: ·) <$> (changeRows test change rows).2) := by
  simp [changeRows, picked, changed, bind, Except.bind, Functor.map, Except.map]

end Steps

/-- Is a row changed before anything goes wrong? -/
def ChangesSome (test : Value → Except Fault Bool) (change : Value → Except Fault Value)
    (rows : Table) : Prop :=
  ∃ before row after new, rows = before ++ row :: after ∧ (∀ other ∈ before, test other = .ok false) ∧
    test row = .ok true ∧ change row = .ok new

theorem changesSome_cons {test : Value → Except Fault Bool} {change : Value → Except Fault Value}
    {row : Value} {rows : Table} : ChangesSome test change (row :: rows) ↔
      (test row = .ok true ∧ ∃ new, change row = .ok new) ∨
        (test row = .ok false ∧ ChangesSome test change rows) := by
  constructor
  · rintro ⟨before, picked, after, new, split, passed, picks, changed⟩
    cases before with
    | nil =>
        cases split
        exact .inl ⟨picks, new, changed⟩
    | cons first before =>
        cases split
        refine .inr ⟨passed row (List.mem_cons_self ..), before, picked, after, new, rfl, ?_, picks,
          changed⟩
        exact fun other h => passed other (List.mem_cons_of_mem row h)
  · rintro (⟨picks, new, changed⟩ | ⟨passes, before, picked, after, new, rfl, passed, picks, changed⟩)
    · exact ⟨[], row, rows, new, rfl, (fun _ h => nomatch h), picks, changed⟩
    · refine ⟨row :: before, picked, after, new, rfl, ?_, picks, changed⟩
      intro other h
      rcases List.mem_cons.1 h with rfl | h
      · exact passes
      · exact passed other h

theorem changeRows_eq_self_iff (test : Value → Except Fault Bool)
    {change : Value → Except Fault Value} (moves : ∀ row new, change row = .ok new → new ≠ row)
    (rows : Table) : (changeRows test change rows).1 = rows ↔ ¬ChangesSome test change rows := by
  induction rows with
  | nil =>
      refine ⟨fun _ => ?_, fun _ => rfl⟩
      rintro ⟨before, row, after, new, split, _⟩
      cases before <;> cases split
  | cons row rows ih =>
      -- only the first picked row decides, and a row that is passed over decides nothing
      rw [changesSome_cons]
      cases picked : test row with
      | error fault => simp [changeRows_untested picked]
      | ok accepted =>
          cases accepted with
          | false => simp [changeRows_passed picked, ih]
          | true =>
              cases changed : change row with
              | error fault => simp [changeRows_unchanged picked changed]
              | ok new => simp [changeRows_changed picked changed, moves row new changed]

/-! ## Removal of some rows -/

theorem length_partitionRows {spec : Spec} {rows kept removed : Table}
    (h : partitionRows spec rows = .ok (kept, removed)) :
    kept.length + removed.length = rows.length ∧ (removed = [] → kept = rows) := by
  induction rows generalizing kept removed with
  | nil =>
      cases h
      exact ⟨rfl, fun _ => rfl⟩
  | cons row rows ih =>
      rcases bind_eq_ok_iff.1 h with ⟨accepted, _, h⟩
      rcases bind_eq_ok_iff.1 h with ⟨⟨others, gone⟩, split, h⟩
      rcases ih split with ⟨length, whole⟩
      cases accepted with
      | true =>
          cases h
          refine ⟨?_, nofun⟩
          simp only [List.length_cons]
          omega
      | false =>
          cases h
          refine ⟨?_, fun none => by rw [whole none]⟩
          simp only [List.length_cons]
          omega

theorem partitionRows_eq_self_iff {spec : Spec} {rows kept removed : Table}
    (h : partitionRows spec rows = .ok (kept, removed)) : kept = rows ↔ removed = [] := by
  rcases length_partitionRows h with ⟨length, whole⟩
  constructor
  · intro same
    rw [same] at length
    exact List.length_eq_zero_iff.1 (by omega)
  · exact whole

end DataGateway.Offline
