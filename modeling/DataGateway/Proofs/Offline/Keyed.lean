import DataGateway.Proofs.Offline.Profile
import DataGateway.Proofs.Value.Equality
import Mathlib.Data.List.Find

/-!
# Rows told apart by their ids

A batch of records goes to a table one record after another: each replaces the row with its id by one
that takes its fields, or comes behind all rows when no row has the id. Ids of any kind can repeat
within the batch, and a later record meets what the earlier ones have made of the table.

* `Keyed` — rows with ids of which no two are equal;
* `Puts`, `PutsAll` — what a record does to a table, and what a batch does;
* `Receives` — a record as a batch leaves it, by the last of the records with its id;
* `Puts.keyed`, `Puts.any_hasId`, `Puts.receives` — the step;
* `PutsAll.keyed`, `PutsAll.placed`, `PutsAll.receives`, `PutsAll.written` — the run.
-/

namespace DataGateway.Offline

/-! ## Ids -/

/-- The id of a row, null for a row without one. -/
def idOf : Value → Value
  | .object fields => (Fields.get? fields "id").getD .null
  | _ => .null

/-- Is a value equal to itself, so that rows can be found by it? -/
structure IsId (id : Value) : Prop where
  named : id.WellNamed
  definite : id.isIndefinite = false

/-- Is a row a record whose id can be compared? -/
structure IsRow (row : Value) : Prop where
  record : row.isObject = true
  named : (idOf row).WellNamed

/-- Has a record an id to be found by? -/
structure Identifies (record : Record) : Prop where
  names : record.names.Nodup
  present : (idOf (.object record)).isNull = false
  isId : IsId (idOf (.object record))

/-- Are the rows records of which no two have equal ids? -/
structure Keyed (rows : Table) : Prop where
  isRow : ∀ row ∈ rows, IsRow row
  apart : rows.Pairwise fun row other => (idOf row).looseEq (idOf other) = false

variable {id row other : Value} {record written : Record} {rows behind new : Table}

theorem hasId_object (id : Value) (fields : Record) :
    hasId id (.object fields) = (idOf (.object fields)).looseEq id := rfl

theorem IsRow.hasId_eq (isRow : IsRow row) (id : Value) : hasId id row = (idOf row).looseEq id := by
  cases row with
  | object fields => rfl
  | _ => cases isRow.record

theorem get?_id_of_present (present : (idOf (.object record)).isNull = false) :
    Fields.get? record "id" = some (idOf (.object record)) := by
  rw [idOf] at present ⊢
  cases found : Fields.get? record "id" with
  | none =>
      rw [found] at present
      cases present
  | some id => rfl

theorem Identifies.get?_id (identifies : Identifies record) :
    Fields.get? record "id" = some (idOf (.object record)) :=
  get?_id_of_present identifies.present

theorem Identifies.isRow (identifies : Identifies record) : IsRow (.object record) where
  record := rfl
  named := identifies.isId.named

/-- Rows with one id have equal ids. -/
theorem IsRow.looseEq_of_hasId (isRow : IsRow row) (isOther : IsRow other) (named : id.WellNamed)
    (first : hasId id row = true) (second : hasId id other = true) :
    (idOf row).looseEq (idOf other) = true := by
  rw [isRow.hasId_eq] at first
  rw [isOther.hasId_eq] at second
  exact isRow.named.looseEq_trans first (isOther.named.looseEq_symm named second)

/-- Rows with equal ids are found by the same ids. -/
theorem IsRow.hasId_congr (isRow : IsRow row) (isOther : IsRow other)
    (equal : (idOf row).looseEq (idOf other) = true) (id : Value) : hasId id row = hasId id other := by
  have back := isRow.named.looseEq_symm isOther.named equal
  rw [isRow.hasId_eq, isOther.hasId_eq, Bool.eq_iff_iff]
  constructor
  · exact isOther.named.looseEq_trans back
  · exact isRow.named.looseEq_trans equal

/-- Equal ids find the same rows. -/
theorem IsRow.hasId_of_looseEq {first second : Value} (isRow : IsRow row) (one : first.WellNamed)
    (two : second.WellNamed) (equal : first.looseEq second = true) :
    hasId first row = hasId second row := by
  rw [isRow.hasId_eq, isRow.hasId_eq, Bool.eq_iff_iff]
  constructor
  · intro there
    exact isRow.named.looseEq_trans there equal
  · intro there
    exact isRow.named.looseEq_trans there (one.looseEq_symm two equal)

/-! ## Tables by id -/

/-- The record with an id in a table, empty when there is none. -/
def recordWith (id : Value) (rows : Table) : Record :=
  ((rows.find? (hasId id)).bind Value.fields?).getD []

theorem recordWith_congr {first second : Value} (isRows : ∀ row ∈ rows, IsRow row)
    (one : first.WellNamed) (two : second.WellNamed) (equal : first.looseEq second = true) :
    recordWith first rows = recordWith second rows := by
  have same : rows.find? (hasId first) = rows.find? (hasId second) :=
    List.find?_congr fun row member => (isRows row member).hasId_of_looseEq one two equal
  rw [recordWith, recordWith, same]

theorem recordWith_of_find? {fields : Record} (found : rows.find? (hasId id) = some (.object fields)) :
    recordWith id rows = fields := by
  rw [recordWith, found]
  rfl

theorem find?_append_cons {before : Table} (absent : ∀ row ∈ before, hasId id row = false)
    (there : hasId id row = true) : (before ++ row :: behind).find? (hasId id) = some row := by
  have none : before.find? (hasId id) = none := by simpa using absent
  rw [List.find?_append, none, List.find?_cons, there]
  rfl

theorem recordWith_of_absent (absent : ∀ row ∈ rows, hasId id row = false) :
    recordWith id rows = [] := by
  have none : rows.find? (hasId id) = none := by simpa using absent
  rw [recordWith, none]
  rfl

/-- An id that is in the table is that of exactly one row. -/
theorem Keyed.filter_hasId (keyed : Keyed rows) (named : id.WellNamed)
    (found : rows.any (hasId id) = true) : rows.filter (hasId id) = [.object (recordWith id rows)] := by
  induction rows with
  | nil => cases found
  | cons row rows ih =>
      rcases List.forall_mem_cons.1 keyed.isRow with ⟨isRow, isRows⟩
      rcases List.pairwise_cons.1 keyed.apart with ⟨first, rest⟩
      cases here : hasId id row with
      | true =>
          have others : rows.filter (hasId id) = [] := by
            rw [List.filter_eq_nil_iff]
            intro other member there
            have equal := isRow.looseEq_of_hasId (isRows other member) named here there
            rw [first other member] at equal
            cases equal
          cases row with
          | object fields => simp [here, others, recordWith, Value.fields?]
          | _ => cases isRow.record
      | false =>
          rw [List.any_cons, here, Bool.false_or] at found
          have rest := ih ⟨isRows, rest⟩ found
          rw [List.filter_cons, here, if_neg Bool.false_ne_true, rest, recordWith, recordWith,
            List.find?_cons, here]

/-! ## One record -/

/-- Has a record the fields of another one and elsewhere the old ones, but for the times? -/
def Takes (record old new : Record) : Prop :=
  ∀ column, column ≠ "created_at" → column ≠ "updated_at" →
    Fields.get? new column = (Fields.get? record column).or (Fields.get? old column)

/-- What a record does to a table. -/
inductive Puts (record written : Record) : Table → Table → Prop
  /-- No row has its id. -/
  | add {rows : Table} : (∀ row ∈ rows, hasId (idOf (.object record)) row = false) →
      Takes record [] written → Puts record written rows (rows ++ [.object written])
  /-- A row has its id, and none before that. -/
  | merge {before behind : Table} {old : Record} :
      (∀ row ∈ before, hasId (idOf (.object record)) row = false) →
      hasId (idOf (.object record)) (.object old) = true → Takes record old written →
      Puts record written (before ++ .object old :: behind) (before ++ .object written :: behind)

theorem Takes.idOf_eq {old : Record} (identifies : Identifies record)
    (takes : Takes record old written) : idOf (.object written) = idOf (.object record) := by
  have column := takes "id" (by decide) (by decide)
  rw [identifies.get?_id, Option.some_or] at column
  rw [idOf, column]
  rfl

theorem Puts.idOf_written (identifies : Identifies record) (puts : Puts record written rows new) :
    idOf (.object written) = idOf (.object record) := by
  cases puts with
  | add _ takes => exact takes.idOf_eq identifies
  | merge _ _ takes => exact takes.idOf_eq identifies

theorem Puts.isRow_written (identifies : Identifies record) (puts : Puts record written rows new) :
    IsRow (.object written) where
  record := rfl
  named := by
    rw [puts.idOf_written identifies]
    exact identifies.isId.named

/-- What is written is found by the ids that find the record. -/
theorem Puts.hasId_written (identifies : Identifies record) (puts : Puts record written rows new)
    (id : Value) : hasId id (.object written) = hasId id (.object record) := by
  rw [hasId_object, hasId_object, puts.idOf_written identifies]

/-- The ids stay apart. -/
theorem Puts.keyed (identifies : Identifies record) (keyed : Keyed rows)
    (puts : Puts record written rows new) : Keyed new := by
  have isWritten := puts.isRow_written identifies
  have sameId := puts.idOf_written identifies
  cases puts with
  | add absent takes =>
      refine ⟨?_, List.pairwise_append.2 ⟨keyed.apart, List.pairwise_singleton .., ?_⟩⟩
      · intro row member
        rcases List.mem_append.1 member with member | member
        · exact keyed.isRow row member
        · rw [List.mem_singleton.1 member]
          exact isWritten
      · intro row member last single
        rw [List.mem_singleton.1 single, sameId, ← (keyed.isRow row member).hasId_eq]
        exact absent row member
  | @merge before behind old absent there takes =>
      rcases List.forall_mem_append.1 keyed.isRow with ⟨isBefore, isRest⟩
      rcases List.forall_mem_cons.1 isRest with ⟨isOld, isBehind⟩
      rcases List.pairwise_append.1 keyed.apart with ⟨early, late, between⟩
      rcases List.pairwise_cons.1 late with ⟨first, rest⟩
      refine ⟨List.forall_mem_append.2 ⟨isBefore, List.forall_mem_cons.2 ⟨isWritten, isBehind⟩⟩,
        List.pairwise_append.2 ⟨early, List.pairwise_cons.2 ⟨?_, rest⟩, ?_⟩⟩
      · intro row member
        -- a row equal to what is written would have been equal to the old row
        rw [← Bool.not_eq_true, sameId]
        intro equal
        have same := isOld.named.looseEq_trans there equal
        rw [first row member] at same
        cases same
      · intro row member other place
        rcases List.mem_cons.1 place with rfl | place
        · rw [sameId, ← (isBefore row member).hasId_eq]
          exact absent row member
        · exact between row member other (List.mem_cons_of_mem _ place)

/-- The ids in the table are those that were there, and that of the record. -/
theorem Puts.any_hasId (identifies : Identifies record) (keyed : Keyed rows)
    (puts : Puts record written rows new) (id : Value) :
    new.any (hasId id) = (rows.any (hasId id) || hasId id (.object record)) := by
  have found := puts.hasId_written identifies id
  cases puts with
  | add absent takes => simp [found]
  | @merge before behind old absent there takes =>
      have isOld := keyed.isRow (.object old) (by simp)
      have same := isOld.hasId_congr identifies.isRow there id
      rw [List.any_append, List.any_cons, found, List.any_append, List.any_cons, same]
      cases hasId id (.object record) <;> simp

/-- What is written is what its id finds from here on. -/
theorem Puts.recordWith_self (identifies : Identifies record) (puts : Puts record written rows new) :
    recordWith (idOf (.object record)) new = written := by
  have self : hasId (idOf (.object record)) (.object record) = true :=
    identifies.isId.named.looseEq_refl identifies.isId.definite
  have found := (puts.hasId_written identifies _).trans self
  cases puts with
  | add absent _ => exact recordWith_of_find? (find?_append_cons absent found)
  | merge absent _ _ => exact recordWith_of_find? (find?_append_cons absent found)

/-- It is made of the record and of the row that the id found so far. -/
theorem Puts.takes (puts : Puts record written rows new) :
    Takes record (recordWith (idOf (.object record)) rows) written := by
  cases puts with
  | add absent takes =>
      rw [recordWith_of_absent absent]
      exact takes
  | @merge before behind old absent there takes =>
      have found : (before ++ .object old :: behind).find? (hasId (idOf (.object record))) =
          some (.object old) := find?_append_cons absent there
      rw [recordWith_of_find? found]
      exact takes

/-! ## Batches -/

/-- What the last of the records with an id that set a column say of it. -/
def lastValue (records : List Record) (id : Value) (column : String) : Option Value :=
  ((records.filter fun record => hasId id (.object record)).filterMap
    (Fields.get? · column)).getLast?

/-- Has a record the values of the last records with an id, and elsewhere the old ones? The times of
creation and of change are left out. -/
def Receives (records : List Record) (id : Value) (old new : Record) : Prop :=
  ∀ column, column ≠ "created_at" → column ≠ "updated_at" →
    Fields.get? new column = (lastValue records id column).or (Fields.get? old column)

/-- The records of a batch that are the first with their id, and meet no row. -/
def newcomers (rows : Table) : List Record → List Record
  | [] => []
  | record :: rest =>
    if rows.any (hasId (idOf (.object record))) then newcomers rows rest
    else record :: newcomers (rows ++ [.object record]) rest

/-- Is a row still the same row, and unchanged when no record has its id? -/
structure Keeps (records : List Record) (row new : Value) : Prop where
  same : new = row ∨ hasId (idOf row) new = true
  unchanged : (∀ record ∈ records, hasId (idOf (.object record)) row = false) → new = row

/-- What a batch does to a table, with the records as they are written. -/
inductive PutsAll : List Record → List Record → Table → Table → Prop
  | nil (rows : Table) : PutsAll [] [] rows rows
  | cons {record first : Record} {records written : List Record} {rows middle new : Table} :
      Puts record first rows middle → PutsAll records written middle new →
      PutsAll (record :: records) (first :: written) rows new

section Batch

variable {records writtens : List Record} {old middle : Record}

theorem lastValue_nil (id : Value) (column : String) : lastValue [] id column = none := rfl

theorem lastValue_cons (id : Value) (column : String) :
    lastValue (record :: records) id column = (lastValue records id column).or
      (if hasId id (.object record) then Fields.get? record column else none) := by
  rw [lastValue, List.filter_cons]
  cases hasId id (.object record) with
  | false =>
      rw [if_neg Bool.false_ne_true, if_neg Bool.false_ne_true, Option.or_none]
      rfl
  | true =>
      rw [if_pos rfl, if_pos rfl, List.filterMap_cons]
      cases Fields.get? record column with
      | none =>
          rw [Option.or_none]
          rfl
      | some v =>
          rw [List.getLast?_cons, ← lastValue]
          cases lastValue records id column <;> rfl

theorem Receives.nil (id : Value) (old : Record) : Receives [] id old old :=
  fun _ _ _ => rfl

theorem Receives.cons {new : Record} (first : Receives [record] id old middle)
    (rest : Receives records id middle new) : Receives (record :: records) id old new := by
  intro column created updated
  have step := first column created updated
  rw [lastValue_cons, lastValue_nil, Option.none_or] at step
  rw [rest column created updated, step, lastValue_cons, Option.or_assoc]

theorem receives_single_of_found (found : hasId id (.object record) = true)
    (takes : Takes record old middle) : Receives [record] id old middle := by
  intro column created updated
  rw [takes column created updated, lastValue_cons, lastValue_nil, Option.none_or, if_pos found]

theorem receives_single_of_not_found (other : hasId id (.object record) = false) (old : Record) :
    Receives [record] id old old := by
  intro column created updated
  rw [lastValue_cons, lastValue_nil, Option.none_or, other]
  rfl

/-- Whatever the id, its record takes what the record that is put says of it. -/
theorem Puts.receives (identifies : Identifies record) (keyed : Keyed rows)
    (puts : Puts record written rows new) (isId : IsId id) :
    Receives [record] id (recordWith id rows) (recordWith id new) := by
  have found := puts.hasId_written identifies id
  cases here : hasId id (.object record) with
  | false =>
      rw [here] at found
      have same : new.find? (hasId id) = rows.find? (hasId id) := by
        cases puts with
        | add absent _ => simp [found]
        | merge absent there _ =>
            have isOld := keyed.isRow (.object _) (List.mem_append_right _ (List.mem_cons_self ..))
            have apart := (isOld.hasId_congr identifies.isRow there id).trans here
            simp [List.find?_append, found, apart]
      rw [recordWith, recordWith, same]
      exact receives_single_of_not_found here _
  | true =>
      rw [here] at found
      have sameWith {others : Table} (isRows : ∀ row ∈ others, IsRow row) :
          recordWith id others = recordWith (idOf (.object record)) others :=
        recordWith_congr isRows isId.named identifies.isId.named
          (identifies.isId.named.looseEq_symm isId.named here)
      rw [sameWith keyed.isRow, sameWith (puts.keyed identifies keyed).isRow,
        puts.recordWith_self identifies]
      exact receives_single_of_found here puts.takes

/-- Tables with the same ids have the same newcomers. -/
theorem newcomers_congr {others : Table} (identified : ∀ record ∈ records, Identifies record)
    (same : ∀ id, rows.any (hasId id) = others.any (hasId id)) :
    newcomers rows records = newcomers others records := by
  induction records generalizing rows others with
  | nil => rfl
  | cons record records ih =>
      rcases List.forall_mem_cons.1 identified with ⟨_, identified⟩
      rw [newcomers, newcomers, same]
      split
      · exact ih identified same
      · refine congrArg (record :: ·) (ih identified ?_)
        intro id
        rw [List.any_append, List.any_append, same]

theorem exists_append_of_forall₂ {α β : Type} {R : α → β → Prop} {xs ys : List α} {zs : List β}
    (related : List.Forall₂ R (xs ++ ys) zs) :
    ∃ us vs, zs = us ++ vs ∧ List.Forall₂ R xs us ∧ List.Forall₂ R ys vs := by
  induction xs generalizing zs with
  | nil => exact ⟨[], zs, rfl, .nil, related⟩
  | cons x xs ih =>
      cases related with
      | cons first rest =>
          rcases ih rest with ⟨us, vs, rfl, left, right⟩
          exact ⟨_ :: us, vs, rfl, .cons first left, right⟩

theorem PutsAll.keyed (identified : ∀ record ∈ records, Identifies record) (keyed : Keyed rows)
    (puts : PutsAll records writtens rows new) : Keyed new := by
  induction puts with
  | nil => exact keyed
  | cons step _ ih =>
      rcases List.forall_mem_cons.1 identified with ⟨first, rest⟩
      exact ih rest (step.keyed first keyed)

/-- Whatever the id, its record takes what the last records with the id say of it. -/
theorem PutsAll.receives (identified : ∀ record ∈ records, Identifies record) (keyed : Keyed rows)
    (puts : PutsAll records writtens rows new) (isId : IsId id) :
    Receives records id (recordWith id rows) (recordWith id new) := by
  induction puts with
  | nil => exact .nil id _
  | cons step _ ih =>
      rcases List.forall_mem_cons.1 identified with ⟨first, rest⟩
      exact (step.receives first keyed isId).cons (ih rest (step.keyed first keyed))

/-- The ids in the table are those that were there, and those of the batch. -/
theorem PutsAll.any_hasId (identified : ∀ record ∈ records, Identifies record) (keyed : Keyed rows)
    (puts : PutsAll records writtens rows new) (id : Value) :
    new.any (hasId id) =
      (rows.any (hasId id) || records.any fun record => hasId id (.object record)) := by
  induction puts with
  | nil => simp
  | cons step _ ih =>
      rcases List.forall_mem_cons.1 identified with ⟨first, rest⟩
      rw [ih rest (step.keyed first keyed), step.any_hasId first keyed, List.any_cons, Bool.or_assoc]

/-- What is written for a record takes what the records up to it say of its id. -/
theorem PutsAll.getElem?_written (identified : ∀ record ∈ records, Identifies record) (keyed : Keyed rows)
    (puts : PutsAll records writtens rows new) {index : Nat}
    (place : records[index]? = some record) : ∃ row, writtens[index]? = some row ∧
      Receives (records.take (index + 1)) (idOf (.object record))
        (recordWith (idOf (.object record)) rows) row := by
  induction puts generalizing index with
  | nil => cases place
  | @cons first written records writtens rows middle new step _ ih =>
      rcases List.forall_mem_cons.1 identified with ⟨identifies, rest⟩
      have isId : IsId (idOf (.object record)) := (identified record (List.mem_of_getElem? place)).isId
      have received := step.receives identifies keyed isId
      cases index with
      | zero =>
          cases place
          rw [step.recordWith_self identifies] at received
          exact ⟨written, rfl, received⟩
      | succ index =>
          rcases ih rest (step.keyed identifies keyed) place with ⟨row, there, later⟩
          exact ⟨row, there, received.cons later⟩

theorem PutsAll.length_eq (puts : PutsAll records writtens rows new) :
    writtens.length = records.length := by
  induction puts with
  | nil => rfl
  | cons _ _ ih => exact congrArg (· + 1) ih

theorem Keeps.cons {first : Record} (keeps : Keeps records row other) :
    Keeps (first :: records) row other where
  same := keeps.same
  unchanged apart := keeps.unchanged (List.forall_mem_cons.1 apart).2

/-- A row with the id of the record that is put need not be what it was. -/
theorem keeps_of_merge (records : List Record) {old : Value} (identifies : Identifies record)
    (isOld : IsRow old) (isRow : IsRow row) (there : hasId (idOf (.object record)) old = true)
    (found : hasId (idOf (.object record)) row = true) : Keeps (record :: records) old row := by
  refine ⟨.inr ?_, ?_⟩
  · rw [isRow.hasId_eq]
    exact isRow.looseEq_of_hasId isOld identifies.isId.named found there
  · intro apart
    rw [(List.forall_mem_cons.1 apart).1] at there
    cases there

/-- A record is a newcomer unless a row has its id, and the others come to the table it leaves. -/
theorem Puts.newcomers_cons (identifies : Identifies record) (keyed : Keyed rows)
    (identified : ∀ record ∈ records, Identifies record) (puts : Puts record written rows new) :
    newcomers rows (record :: records) =
      if rows.any (hasId (idOf (.object record))) then newcomers new records
      else record :: newcomers new records := by
  have ids := puts.any_hasId identifies keyed
  rw [newcomers]
  split
  · rename_i met
    rcases List.any_eq_true.1 met with ⟨old, member, there⟩
    refine newcomers_congr identified fun id => ?_
    have same := (keyed.isRow old member).hasId_congr identifies.isRow
      (((keyed.isRow old member).hasId_eq _).symm.trans there) id
    rw [ids id, ← same]
    cases here : hasId id old with
    | false => rw [Bool.or_false]
    | true => simpa using ⟨old, member, here⟩
  · refine congrArg (record :: ·) (newcomers_congr identified fun id => ?_)
    rw [ids id, List.any_append, List.any_cons, List.any_nil, Bool.or_false]

/-- The rows stay in their places, and behind them come the newcomers of the batch in its order. -/
theorem PutsAll.placed (identified : ∀ record ∈ records, Identifies record) (keyed : Keyed rows)
    (puts : PutsAll records writtens rows new) : ∃ kept added, new = kept ++ added ∧
      List.Forall₂ (Keeps records) rows kept ∧
      List.Forall₂ (fun first row => hasId (idOf (.object first)) row = true)
        (newcomers rows records) added := by
  induction puts with
  | nil rows =>
      refine ⟨rows, [], by simp, List.forall₂_same.2 ?_, .nil⟩
      exact fun row _ => ⟨.inl rfl, fun _ => rfl⟩
  | @cons record first records written rows middle new step rest ih =>
      rcases List.forall_mem_cons.1 identified with ⟨identifies, others⟩
      have next := step.keyed identifies keyed
      have ids := step.any_hasId identifies keyed
      have sameId := step.idOf_written identifies
      have self : hasId (idOf (.object record)) (.object record) = true :=
        identifies.isId.named.looseEq_refl identifies.isId.definite
      have isRows := (rest.keyed others next).isRow
      have found (row : Value) (keeps : Keeps records (.object first) row) :
          hasId (idOf (.object record)) row = true := by
        rcases keeps.same with rfl | same
        · exact (step.hasId_written identifies _).trans self
        · rw [← sameId]
          exact same
      rcases ih others next with ⟨kept, added, rfl, keeps, adds⟩
      have come := step.newcomers_cons identifies keyed others
      cases step with
      | add absent takes =>
          -- the row of the record comes before those of the newcomers behind it
          rcases exists_append_of_forall₂ keeps with ⟨us, vs, rfl, stay, last⟩
          cases last with
          | @cons _ row _ _ keepsFirst none =>
              cases none
              refine ⟨us, row :: added, by simp, stay.imp fun _ _ => Keeps.cons, ?_⟩
              rw [come, if_neg (by simpa using absent)]
              exact .cons (found row keepsFirst) adds
      | @merge before behind old absent there takes =>
          rcases exists_append_of_forall₂ keeps with ⟨us, vs, rfl, early, late⟩
          cases late with
          | @cons _ row _ vs keepsFirst late =>
              have isOld := keyed.isRow (.object old) (by simp)
              have merged := keeps_of_merge records identifies isOld
                (isRows row (by simp)) there (found row keepsFirst)
              refine ⟨us ++ row :: vs, added, rfl, ?_, ?_⟩
              · exact List.rel_append (early.imp fun _ _ => Keeps.cons)
                  (.cons merged (late.imp fun _ _ => Keeps.cons))
              · rw [come, if_pos (by simp [there])]
                exact adds

end Batch

end DataGateway.Offline
