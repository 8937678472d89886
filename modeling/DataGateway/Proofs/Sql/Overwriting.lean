import DataGateway.Proofs.Sql.Grid

/-!
# Records that are overwritten

What a statement that adds one record does to the records of a table in which no two share a value of one
column. The record that is proposed comes behind all others when it meets none of them. The rule of the
statement says what becomes of the one that it meets.

* `proposed?` — the record in a group of placeholders;
* `Insertion.execute` — the records after a statement, and those that it returns;
* `Overwrites` — a record with the columns of another one that an upsert may write;
* `Builder.upserts_overwritten` — the statement of an upsert puts such a record in the place of the old one.
-/

namespace DataGateway.Sql

/-! ## Executing a statement -/

/-- What a placeholder puts under a column. -/
def cell? (arguments : List Argument) : Identifier × Int → Option (String × Value)
  | (column, n) => (argumentFor? arguments n).map fun argument => (column.text, argument.value)

/-- The record in a group of placeholders, which has one for each column. -/
def proposed? (arguments : List Argument) (columns : List Identifier) (group : List Int) :
    Option Record :=
  if group.length = columns.length then (columns.zip group).mapM (cell? arguments) else none

/-- A record with the columns that are assigned from the proposed one, in which other columns are null. -/
def assigned (assignments : List (Identifier × Identifier)) (proposed old : Record) : Record :=
  Fields.merge old (assignments.map fun (column, excluded) =>
    (column.text, (Fields.get? proposed excluded.text).getD .null))

/-- Has a record the value of the proposed one in a column? Null is equal to nothing. -/
def meets (column : Identifier) (proposed old : Record) : Bool :=
  let value := (Fields.get? proposed column.text).getD .null
  !value.isNull && ((Fields.get? old column.text).getD .null).looseEq value

/-- What becomes of a record that the proposed one meets, and what is returned for it. Without a rule the
statement fails. -/
def resolved? (rule : Option Rule) (proposed old : Record) : Option (Record × List Record) :=
  match rule with
  | none => none
  | some .nothing => some (old, [])
  | some (.overwrite _ assignments) =>
    some (assigned assignments proposed old, [assigned assignments proposed old])

/-- The records with a proposed one among them, and those that are returned. -/
def place? (unique : Identifier) (rule : Option Rule) (proposed : Record) :
    List Record → Option (List Record × List Record)
  | [] => some ([proposed], [proposed])
  | old :: rest =>
    if meets unique proposed old then do
      let (kept, returned) ← resolved? rule proposed old
      return (kept :: rest, returned)
    else do
      let (rest, returned) ← place? unique rule proposed rest
      return (old :: rest, returned)

/-- May a rule stand in a statement? A rule that overwrites has to name the column whose values are apart. -/
def Rule.isFor (unique : Identifier) : Rule → Bool
  | .nothing => true
  | .overwrite target _ => target = unique

/-- The records after a statement that adds one record, and those that it returns. -/
def Insertion.execute (insertion : Insertion) (unique : Identifier) (arguments : List Argument)
    (records : List Record) : Option (List Record × List Record) :=
  match insertion.groups with
  | [group] =>
    if insertion.rule.all (Rule.isFor unique) then
      (proposed? arguments insertion.columns group).bind fun proposed =>
        place? unique insertion.rule proposed records
    else none
  | _ => none

/-- The first record that the proposed one meets is the only one that changes. -/
theorem place?_append {unique : Identifier} {rule : Option Rule} {proposed old kept : Record}
    {before returned : List Record} (behind : List Record)
    (apart : ∀ record ∈ before, meets unique proposed record = false)
    (met : meets unique proposed old = true)
    (result : resolved? rule proposed old = some (kept, returned)) :
    place? unique rule proposed (before ++ old :: behind) =
      some (before ++ kept :: behind, returned) := by
  induction before with
  | nil => simp [place?, met, result]
  | cons record before ih =>
      rcases List.forall_mem_cons.1 apart with ⟨first, others⟩
      simp [place?, first, ih others]

/-! ## What a statement of one record proposes -/

theorem mapM_eq_some_of_forall₂ {α β : Type} {read : α → Option β} {as : List α} {bs : List β}
    (each : List.Forall₂ (fun a b => read a = some b) as bs) : as.mapM read = some bs := by
  induction each with
  | nil => rfl
  | cons first _ ih => simp [first, ih]

/-- A statement for one record proposes this record, with its columns in their order. -/
theorem Insertion.Places.proposed?_eq {insertion : Insertion} {table : Value} {record : Record}
    {arguments : List Argument} (places : insertion.Places table [record] arguments)
    (distinct : record.names.Nodup) : ∃ group, insertion.groups = [group] ∧
      proposed? arguments insertion.columns group = some record := by
  rcases places.columns with ⟨first, head, texts⟩
  cases head
  rcases List.length_eq_one_iff.1 places.groups with ⟨group, groups⟩
  have width : group.length = insertion.columns.length :=
    places.widths group (by rw [groups]; exact List.mem_singleton.2 rfl)
  have length : insertion.columns.length = record.length := by
    simpa [Fields.names] using congrArg List.length texts
  refine ⟨group, groups, ?_⟩
  rw [proposed?, if_pos width]
  refine mapM_eq_some_of_forall₂ (List.forall₂_iff_get.2 ⟨by simp [width, length], ?_⟩)
  intro j inside within
  have entry : record[j]? = some record[j] := List.getElem?_eq_getElem within
  have listed : insertion.columns[j]? = some insertion.columns[j] := List.getElem?_eq_getElem _
  rcases places.cells (rfl : [record][0]? = some record) listed with
    ⟨own, n, argument, value, grouped, numbered, given, found, carries⟩
  rw [groups] at grouped
  cases grouped
  have name : insertion.columns[j].text = record[j].1 := by
    have same := congrArg (·[j]?) texts
    simpa [Fields.names, listed, entry] using same
  have here : Fields.get? record record[j].1 = some record[j].2 :=
    Fields.get?_of_mem distinct (List.mem_of_getElem? entry)
  have same : record[j].2 = argument.value := by
    rw [name, here] at found
    exact (Option.some.inj found).trans carries.1.symm
  have number : group[j] = n := Option.some.inj ((List.getElem?_eq_getElem _).symm.trans numbered)
  simp [cell?, number, given, name, ← same]

/-! ## Upserts -/

/-- Is a record the old one with the columns of the proposed one over its own, but for a target and the
time of creation? -/
def Overwrites (target : Identifier) (proposed old new : Record) : Prop :=
  ∀ column, Fields.get? new column =
    if column = target.text ∨ column = "created_at" then Fields.get? old column
    else (Fields.get? proposed column).or (Fields.get? old column)

/-- Columns that are assigned from the proposed record have its values. -/
theorem get?_assigned {columns : List Identifier} {proposed old : Record}
    (distinct : (columns.map Identifier.text).Nodup)
    (own : ∀ column ∈ columns, column.text ∈ proposed.names) (name : String) :
    Fields.get? (assigned (columns.map fun c => (c, c)) proposed old) name =
      if name ∈ columns.map Identifier.text then Fields.get? proposed name
      else Fields.get? old name := by
  let update : Record := columns.map fun c => (c.text, (Fields.get? proposed c.text).getD .null)
  have merged : assigned (columns.map fun c => (c, c)) proposed old = Fields.merge old update := by
    rw [assigned, List.map_map]
    rfl
  have names : update.names = columns.map Identifier.text := by simp [update, Fields.names]
  rw [merged, Fields.get?_merge (names ▸ distinct)]
  by_cases listed : name ∈ columns.map Identifier.text
  · rw [if_pos listed]
    rcases List.mem_map.1 listed with ⟨column, member, rfl⟩
    rcases Option.isSome_iff_exists.1 (Fields.mem_names_iff.1 (own column member)) with ⟨value, found⟩
    have entry : (column.text, value) ∈ update :=
      List.mem_map.2 ⟨column, member, by rw [found, Option.getD_some]⟩
    rw [Fields.get?_of_mem (names ▸ distinct) entry, found, Option.some_or]
  · have absent : Fields.get? update name = none := Fields.get?_of_not_mem_names (names ▸ listed)
    rw [if_neg listed, absent, Option.none_or]

/-- A rule with something to assign assigns the columns that are neither the target nor the time of
creation. -/
theorem Rule.assigning_eq {target : Identifier} {columns : List Identifier}
    (more : ∃ name ∈ columns.map Identifier.text, name ≠ target.text ∧ name ≠ "created_at") :
    ∃ kept : List Identifier,
      Rule.assigning target columns = .overwrite target (kept.map fun c => (c, c)) ∧
      kept.Sublist columns ∧ ∀ name, name ∈ kept.map Identifier.text ↔
        name ∈ columns.map Identifier.text ∧ name ≠ target.text ∧ name ≠ "created_at" := by
  let kept := columns.filter fun c => decide (c.text ≠ target.text ∧ c.text ≠ "created_at")
  have member (name : String) : name ∈ kept.map Identifier.text ↔
      name ∈ columns.map Identifier.text ∧ name ≠ target.text ∧ name ≠ "created_at" := by
    simp only [kept, List.mem_map, List.mem_filter, decide_eq_true_eq]
    constructor
    · rintro ⟨c, ⟨listed, other⟩, rfl⟩
      exact ⟨⟨c, listed, rfl⟩, other⟩
    · rintro ⟨⟨c, listed, rfl⟩, other⟩
      exact ⟨c, ⟨listed, other⟩, rfl⟩
  have some : kept ≠ [] := by
    rcases more with ⟨name, listed, other⟩
    rintro none
    have there := (member name).2 ⟨listed, other⟩
    rw [none] at there
    cases there
  exact ⟨kept, if_neg some, List.filter_sublist, member⟩

/-- The rule for the columns of a record makes one that overwrites the old one with it. -/
theorem Rule.assigning_overwrites {target : Identifier} {columns : List Identifier} {record : Record}
    (texts : columns.map Identifier.text = record.names) (distinct : record.names.Nodup)
    (more : ∃ name ∈ record.names, name ≠ target.text ∧ name ≠ "created_at") (old : Record) :
    Rule.isFor target (.assigning target columns) = true ∧ ∃ new,
      resolved? (some (.assigning target columns)) record old = some (new, [new]) ∧
        Overwrites target record old new := by
  rw [← texts] at more distinct
  rcases Rule.assigning_eq more with ⟨kept, rule, sublist, listed⟩
  rw [texts] at listed
  have apart : (kept.map Identifier.text).Nodup := distinct.sublist (sublist.map Identifier.text)
  have own : ∀ c ∈ kept, c.text ∈ record.names := fun c member =>
    ((listed c.text).1 (List.mem_map_of_mem member)).1
  rw [rule]
  refine ⟨decide_eq_true rfl, _, rfl, fun name => ?_⟩
  rw [get?_assigned apart own]
  by_cases fixed : name = target.text ∨ name = "created_at"
  · have out : name ∉ kept.map Identifier.text := fun member =>
      fixed.elim ((listed name).1 member).2.1 ((listed name).1 member).2.2
    rw [if_pos fixed, if_neg out]
  · rw [if_neg fixed]
    by_cases member : name ∈ record.names
    · rcases Option.isSome_iff_exists.1 (Fields.mem_names_iff.1 member) with ⟨value, found⟩
      rw [if_pos ((listed name).2 ⟨member, not_or.1 fixed⟩), found, Option.some_or]
    · have absent : Fields.get? record name = none := Fields.get?_of_not_mem_names member
      rw [if_neg fun there => member ((listed name).1 there).1, absent, Option.none_or]

namespace Builder

/-- The statement of an upsert of a record, read and executed on the records of a table, leaves others and
returns one of them. -/
def Upserts (builder : Builder) (table : Identifier) (record : Record) (records left : List Record)
    (returned : Record) : Prop :=
  ∃ prepared insertion, builder.upsert table.value [record] = .ok prepared ∧
    readInsert? prepared.statement.text = some insertion ∧ insertion.table = table ∧
    insertion.execute builder.conflictColumn prepared.arguments records = some (left, [returned])

/-- An upsert puts a record that overwrites the old one in its place, and returns it. -/
theorem upserts_overwritten (builder : Builder) (table : Identifier) {record old : Record}
    {before : List Record} (behind : List Record) (distinct : record.names.Nodup)
    (named : ∀ name ∈ record.names, Passes (.text name))
    (more : ∃ name ∈ record.names, name ≠ builder.conflictColumn.text ∧ name ≠ "created_at")
    (apart : ∀ other ∈ before, meets builder.conflictColumn record other = false)
    (met : meets builder.conflictColumn record old = true) :
    ∃ new, builder.Upserts table record (before ++ old :: behind) (before ++ new :: behind) new ∧
      Overwrites builder.conflictColumn record old new := by
  have filled : record ≠ [] := by
    rintro rfl
    rcases more with ⟨name, member, _⟩
    cases member
  have writable : ¬Unwritable table.value [record] :=
    not_unwritable_iff.2 ⟨record, [], rfl, filled, (fun _ none => nomatch none), named, table.passes⟩
  have single : ∀ row ∈ [record], row.names.Nodup := List.forall_mem_singleton.2 distinct
  let conflict := fun columns => some (Conflict.mk builder.conflictColumn (builder.overwritten columns))
  rcases write_places conflict single writable with ⟨prepared, insertion, written, read, places, rule⟩
  rcases places.columns with ⟨first, head, texts⟩
  cases head
  rcases places.proposed?_eq distinct with ⟨group, groups, proposed⟩
  -- the rule is that of the columns as they are written, which are those of the record
  have assigning : insertion.rule = some (.assigning builder.conflictColumn insertion.columns) := by
    rw [rule, Option.map_some, rule_overwritten]
  rcases Rule.assigning_overwrites texts distinct more old with ⟨isFor, new, resolved, overwrites⟩
  rw [← assigning] at resolved
  have relation : insertion.table = table :=
    Identifier.text_inj.1 (Value.text.inj places.table)
  refine ⟨new, ⟨prepared, insertion, written, read, relation, ?_⟩, overwrites⟩
  have allowed : insertion.rule.all (Rule.isFor builder.conflictColumn) = true := by
    rw [assigning, Option.all_some, isFor]
  rw [Insertion.execute, groups]
  simp only [allowed, if_true, proposed, Option.bind_some]
  exact place?_append behind apart met resolved

end Builder

end DataGateway.Sql
