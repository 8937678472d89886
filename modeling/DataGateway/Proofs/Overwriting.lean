import DataGateway.Proofs.Offline.Batch
import DataGateway.Proofs.Offline.Failure
import DataGateway.Proofs.Offline.Upsert
import DataGateway.Proofs.Sql.Overwriting

/-!
# Overwriting a record, offline and in SQL

A record that goes to a table with a record of its id overwrites this one. Both backends take its columns
over the old ones, but they do not agree about the time of creation: the statement leaves it alone, the
offline backend takes a new one.

* `Offline.UpsertLeaves` — what an upsert leaves offline;
* `Offline.upserts_merged` — that is the merged record in the place of the old one;
* `SameWriting` — two records that overwrite one another alike;
* `upsert_alike` — what the two backends write.
-/

namespace DataGateway

/-! ## Offline -/

namespace Offline

variable {moment : Moment} {host : Host Backend} {table : Value} {name : Key} {record old : Record}
  {before behind : List Record}

/-- An upsert of a record leaves records in a table and writes one of them, which it answers when it
succeeds. No other table changes. -/
structure UpsertLeaves (moment : Moment) (table : Value) (name : Key) (record : Record)
    (host : Host Backend) (left : List Record) (written : Record) : Prop where
  tables : (perform moment (.upsert table (.object record)) host).2.backend.tables =
    Fields.set host.backend.tables name (left.map Value.object)
  answer : ∀ result, (perform moment (.upsert table (.object record)) host).1 = .ok (.success result) →
    result = .object written

/-- The old record with the new fields and a time of change. -/
def merged (record old : Record) (stamp : String) : Record :=
  Fields.set (Fields.merge old record) "updated_at" (.text stamp)

/-- The time of change of a record. -/
def changedTime (record : Record) : Value := (Fields.get? record "updated_at").getD .null

theorem change_object_of_ok {stamp : String} (advanced : advance moment (changedTime old) = .ok stamp) :
    change moment (.object old) (.object record) = .ok (.object (merged record old stamp)) := by
  change (advance moment (changedTime old) >>= _) = _
  rw [advanced]
  rfl

theorem change_object_of_error {fault : Fault}
    (stopped : advance moment (changedTime old) = .error fault) :
    change moment (.object old) (.object record) = .error fault := by
  change (advance moment (changedTime old) >>= _) = _
  rw [stopped]
  rfl

/-- The search goes past records with other ids. -/
theorem indexOfId?_of_found {id : Value} (known : Fields.get? record "id" = some id) (index : Nat)
    (apart : ∀ other ∈ before, hasId id (.object other) = false) (there : hasId id (.object old) = true) :
    indexOfId? record index ((before ++ old :: behind).map Value.object) =
      .ok (some (index + before.length)) := by
  induction before generalizing index with
  | nil =>
      have equal : ((Fields.get? old "id").getD .null).looseEq id = true := there
      rw [List.nil_append, List.map_cons, indexOfId?, known]
      exact if_pos equal
  | cons other before ih =>
      rcases List.forall_mem_cons.1 apart with ⟨first, others⟩
      have differs : ((Fields.get? other "id").getD .null).looseEq id = false := first
      have place : index + (other :: before).length = index + 1 + before.length := by
        rw [List.length_cons]
        omega
      rw [place, ← ih (index + 1) others, List.cons_append, List.map_cons, indexOfId?, known]
      exact if_neg (by simp [differs])

section Table

variable (named : Key.ofValue table = .ok name)
  (stored : Fields.get? host.backend.tables name = some ((before ++ old :: behind).map Value.object))
  (known : Fields.get? record "id" = some (idOf (.object record)))
  (apart : ∀ other ∈ before, hasId (idOf (.object record)) (.object other) = false)
  (there : hasId (idOf (.object record)) (.object old) = true)

include named stored known apart there

/-- The first record with the id is the one that is changed. -/
theorem upsertRow_of_found : upsertRow moment table record host =
    (Action.ofExcept (change moment (.object old) (.object record)) >>= fun new =>
      putTable table (before.map Value.object ++ new :: behind.map Value.object) >>= fun _ => pure new :
        Work Value) host := by
  have read : rowsOfTable table host = (.ok ((before ++ old :: behind).map Value.object), host) := by
    rw [rowsOfTable_ok named, stored, Option.getD_some]
  have place : ((before ++ old :: behind).map Value.object).getD before.length .null = .object old := by
    simp
  have rows (new : Value) : ((before ++ old :: behind).map Value.object).set before.length new =
      before.map Value.object ++ new :: behind.map Value.object := by
    simp
  have searched : indexOfId? record 0 ((before ++ old :: behind).map Value.object) =
      .ok (some before.length) := by
    rw [indexOfId?_of_found known 0 apart there, Nat.zero_add]
  rw [upsertRow, Action.bind_of_ok read, Action.ofExcept_bind_ok searched]
  simp only [place, rows]

/-- The merged record takes the place of the old one. -/
theorem upserts_merged {stamp : String} (advanced : advance moment (changedTime old) = .ok stamp) :
    UpsertLeaves moment table name record host (before ++ merged record old stamp :: behind)
      (merged record old stamp) := by
  have present : Fields.has host.backend.tables name = true := Fields.has_eq_true_iff.2 ⟨_, stored⟩
  rcases putTable_ok named (before.map Value.object ++ .object (merged record old stamp) ::
    behind.map Value.object) host with ⟨after, put, tables⟩
  have wrote : upsertRow moment table record host = (.ok (.object (merged record old stamp)), after) := by
    rw [upsertRow_of_found named stored known apart there,
      Action.ofExcept_bind_ok (change_object_of_ok advanced), Action.bind_of_ok put]
    rfl
  have ran : body moment (.upsert table (.object record)) host = _ :=
    upsert_row_of_ok named present wrote
  refine ⟨?_, ?_⟩
  · have kept : (save after).2.backend.tables = after.backend.tables := keeps_save after
    rw [tables_perform, ran, tables_bind_keeps fun _ => .pure _, kept, tables]
    simp
  · intro result succeeded
    have ended : body moment (.upsert table (.object record)) host = (.ok result, _) :=
      Profile.resolve_success rfl (Prod.ext succeeded rfl)
    rw [ran] at ended
    rcases Action.bind_ok ended with ⟨_, _, _, answered⟩
    cases answered
    rfl

/-- Nothing changes when the time of change of the old record cannot go on. -/
theorem upsert_stopped {fault : Fault} (stopped : advance moment (changedTime old) = .error fault) :
    Failed (perform moment (.upsert table (.object record)) host).1 ∧
      (perform moment (.upsert table (.object record)) host).2.backend = host.backend := by
  have present : Fields.has host.backend.tables name = true := Fields.has_eq_true_iff.2 ⟨_, stored⟩
  have failed : upsertRow moment table record host = (.error fault, host) := by
    rw [upsertRow_of_found named stored known apart there,
      Action.ofExcept_bind_error (change_object_of_error stopped)]
  rcases perform_of_error (upsert_row_of_error named present failed) with ⟨text, journal, answered⟩
  rw [answered]
  exact ⟨⟨text, rfl⟩, rfl⟩

end Table

end Offline

/-! ## Both -/

open Offline

/-- A host with one table of notes. -/
def notebook (notes : List Record) : Host Backend where
  backend := { tables := [(.ofText "notes", notes.map Value.object)], store := .empty }

theorem get?_notebook (notes : List Record) :
    Fields.get? (notebook notes).backend.tables (.ofText "notes") = some (notes.map Value.object) := by
  rw [notebook, Fields.get?_cons, if_pos (by simp)]

/-- Does one record agree with another one that overwrites the old one in its own way? In all columns but
the id, the time of change, and the time of creation; in this one too when no other is given. -/
structure SameWriting (record old written executed : Record) : Prop where
  others : ∀ column, column ≠ "id" → column ≠ "updated_at" → column ≠ "created_at" →
    Fields.get? written column = Fields.get? executed column
  creation : Fields.get? written "created_at" = Fields.get? executed "created_at" ↔
    Fields.get? record "created_at" = none ∨
      Fields.get? record "created_at" = Fields.get? old "created_at"

theorem sameWriting_of_overwrites {key : Sql.Identifier} (isId : key.text = "id")
    {record old executed : Record} (distinct : record.names.Nodup) (stamp : String)
    (overwrites : Sql.Overwrites key record old executed) :
    SameWriting record old (merged record old stamp) executed := by
  have offline (column : String) (other : column ≠ "updated_at") :
      Fields.get? (merged record old stamp) column =
        (Fields.get? record column).or (Fields.get? old column) := by
    rw [merged, Fields.get?_set_of_ne (beq_false_of_ne other), Fields.get?_merge distinct]
  refine ⟨fun column id updated created => ?_, ?_⟩
  · rw [offline column updated, overwrites, isId, if_neg (not_or.2 ⟨id, created⟩)]
  · rw [offline "created_at" (by decide), overwrites, if_pos (.inr rfl)]
    cases Fields.get? record "created_at" with
    | none => simp
    | some given => simp

/-- A record has an id of a table whose records are told apart by their ids, names that may enter a
statement, and a column to overwrite. An upsert of it, by statement and offline, puts one record in the
place of the old one and leaves the others alone. What the two write agrees in every column but the id,
the time of change and the time of creation, and in the last of these exactly if none is given or the old
one. Offline nothing is written only where the time of change cannot go on. -/
theorem upsert_alike {host : Host Backend} {table : Value} {name : Key}
    (named : Key.ofValue table = .ok name) {rows : List Record}
    (stored : Fields.get? host.backend.tables name = some (rows.map Value.object))
    (keyed : Keyed (rows.map Value.object)) {record old : Record} (distinct : record.names.Nodup)
    (plain : ∀ column ∈ record.names, Sql.Passes (.text column))
    (more : ∃ column ∈ record.names, column ≠ "id" ∧ column ≠ "created_at")
    (present : (idOf (.object record)).isNull = false) (wellNamed : (idOf (.object record)).WellNamed)
    (member : old ∈ rows) (same : hasId (idOf (.object record)) (.object old) = true)
    (relation : Sql.Identifier) (moment : Moment) :
    ∃ before behind executed, rows = before ++ old :: behind ∧
      Sql.Builder.Upserts ⟨⟨"id", rfl⟩⟩ relation record rows (before ++ executed :: behind) executed ∧
      ((∃ written, UpsertLeaves moment table name record host (before ++ written :: behind) written ∧
          SameWriting record old written executed) ∨
        ∃ fault, advance moment (changedTime old) = .error fault ∧
          Failed (perform moment (.upsert table (.object record)) host).1 ∧
          (perform moment (.upsert table (.object record)) host).2.backend = host.backend) := by
  rcases List.append_of_mem member with ⟨before, behind, rfl⟩
  let key : Sql.Identifier := ⟨"id", rfl⟩
  have isRow (other : Record) (there : other ∈ before ++ old :: behind) : IsRow (.object other) :=
    keyed.isRow _ (List.mem_map_of_mem there)
  have apart : ∀ other ∈ before, hasId (idOf (.object record)) (.object other) = false := by
    intro other there
    have different : (idOf (.object other)).looseEq (idOf (.object old)) = false := by
      have pairs := keyed.apart
      rw [List.pairwise_map, List.pairwise_append] at pairs
      exact pairs.2.2 other there old (List.mem_cons_self ..)
    by_contra found
    have equal := (isRow other (List.mem_append_left _ there)).looseEq_of_hasId (isRow old member)
      wellNamed (Bool.eq_true_of_not_eq_false found) same
    rw [different] at equal
    cases equal
  -- with an id that is not null, records that meet are those that have the same id
  have meets_eq (other : Record) :
      Sql.meets key record other = hasId (idOf (.object record)) (.object other) := by
    have given : ((Fields.get? record "id").getD .null).isNull = false := present
    simp only [Sql.meets, key, given, Bool.not_false, Bool.true_and]
    rfl
  have known := get?_id_of_present present
  rcases Sql.Builder.upserts_overwritten ⟨key⟩ relation behind distinct plain more
    (fun other there => (meets_eq other).trans (apart other there)) ((meets_eq old).trans same) with
    ⟨executed, upserts, overwrites⟩
  refine ⟨before, behind, executed, rfl, upserts, ?_⟩
  cases advanced : advance moment (changedTime old) with
  | ok stamp =>
      exact .inl ⟨merged record old stamp, upserts_merged named stored known apart same advanced,
        sameWriting_of_overwrites rfl distinct stamp overwrites⟩
  | error fault => exact .inr ⟨fault, rfl, upsert_stopped named stored known apart same advanced⟩

/-- A note under a new name is the same in both backends, with an id that is equal only. -/
theorem upsert_alike_notes :
    let old : Record := [("id", .int 1), ("name", .text "Draft"), ("created_at", .text "2024-05-01")]
    let other : Record := [("id", .text "b"), ("done", .null)]
    let record : Record := [("name", .text "Final"), ("id", .bool true)]
    ∃ executed written,
      Sql.Builder.Upserts ⟨⟨"id", rfl⟩⟩ ⟨"notes", rfl⟩ record [other, old] [other, executed] executed ∧
      UpsertLeaves {} (.text "notes") (.ofText "notes") record (notebook [other, old]) [other, written]
        written ∧
      Fields.get? written "name" = Fields.get? executed "name" ∧
      Fields.get? written "created_at" = Fields.get? executed "created_at" := by
  intro old other record
  have rows : ∀ row ∈ [other, old].map Value.object, IsRow row := by
    have plain : ∀ row ∈ [other, old].map Value.object,
        row.isObject = true ∧ (idOf row).isPlain = true := by decide +kernel
    exact fun row member => ⟨(plain row member).1, .plain (plain row member).2⟩
  have keyed : Keyed ([other, old].map Value.object) := ⟨rows, by decide +kernel⟩
  have names : ∀ column ∈ record.names, Sql.Passes (.text column) := by
    have valid : ∀ column ∈ record.names, Sql.isIdentifier column.toList = true := by decide +kernel
    exact fun column member => (Sql.Identifier.mk column (valid column member)).passes
  have stored : Fields.get? (notebook [other, old]).backend.tables (.ofText "notes") =
      some ([other, old].map Value.object) := get?_notebook _
  have member : old ∈ [other, old] := List.mem_cons_of_mem _ (List.mem_singleton.2 rfl)
  have more : ∃ column ∈ record.names, column ≠ "id" ∧ column ≠ "created_at" :=
    ⟨"name", by decide +kernel, by decide, by decide⟩
  rcases upsert_alike (ofValue_text "notes") stored keyed (by decide +kernel) names more rfl (.plain rfl)
    member (by decide +kernel) ⟨"notes", rfl⟩ {} with
    ⟨before, behind, executed, split, upserts, wrote | ⟨fault, stopped, _⟩⟩
  · rcases wrote with ⟨written, writes, alike⟩
    have place : before = [other] ∧ behind = [] := by
      match before, split with
      | [], split => exact absurd (congrArg List.length (List.cons.inj split).1) (by decide)
      | [first], split =>
          cases split
          exact ⟨rfl, rfl⟩
      | _ :: _ :: _, split => simp at split
    rcases place with ⟨rfl, rfl⟩
    exact ⟨executed, written, upserts, writes, alike.others "name" (by decide) (by decide) (by decide),
      alike.creation.2 (.inl rfl)⟩
  · cases stopped

/-- A note with a new time of creation has it in one of the two backends only. -/
theorem upsert_differs :
    let old : Record := [("id", .int 1), ("name", .text "Draft"), ("created_at", .text "2024-05-01")]
    let record : Record := [("id", .int 1), ("name", .text "Final"), ("created_at", .text "2025-05-01")]
    ∃ executed written,
      Sql.Builder.Upserts ⟨⟨"id", rfl⟩⟩ ⟨"notes", rfl⟩ record [old] [executed] executed ∧
      UpsertLeaves {} (.text "notes") (.ofText "notes") record (notebook [old]) [written] written ∧
      Fields.get? written "created_at" = some (.text "2025-05-01") ∧
      Fields.get? executed "created_at" = some (.text "2024-05-01") := by
  intro old record
  have valid : ∀ column ∈ record.names, Sql.isIdentifier column.toList = true := by decide +kernel
  have names : ∀ column ∈ record.names, Sql.Passes (.text column) := fun column member =>
    (Sql.Identifier.mk column (valid column member)).passes
  have more : ∃ column ∈ record.names, column ≠ "id" ∧ column ≠ "created_at" :=
    ⟨"name", by decide +kernel, by decide, by decide⟩
  have met : Sql.meets ⟨"id", rfl⟩ record old = true := by decide +kernel
  rcases Sql.Builder.upserts_overwritten ⟨⟨"id", rfl⟩⟩ ⟨"notes", rfl⟩ [] (by decide +kernel) names more
    (List.forall_mem_nil _) met with ⟨executed, upserts, overwrites⟩
  have stored : Fields.get? (notebook [old]).backend.tables (.ofText "notes") =
      some (([] ++ old :: []).map Value.object) := get?_notebook _
  have writes : UpsertLeaves {} (.text "notes") (.ofText "notes") record (notebook [old]) _ _ :=
    upserts_merged (ofValue_text "notes") stored rfl (List.forall_mem_nil _) (by decide +kernel) rfl
  exact ⟨executed, _, upserts, writes, rfl, overwrites "created_at"⟩

end DataGateway
