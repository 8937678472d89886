import DataGateway.Proofs.Sql.Names
import DataGateway.Proofs.Sql.Writing

/-!
# Values under their columns

A statement that adds rows has a group of placeholders for every row and a placeholder in it for every
column. The arguments stand row by row in the order of the columns, so reading the groups by position
finds every value of a row under its column, also when the rows do not have their columns in one order.

* `Unwritable` — why rows cannot be written;
* `Insertion.Places` — what was read from a statement puts the values of rows under their columns;
* `Builder.writes_under_columns` — the statements that add rows do, or are refused. The name of the table
  may be one without a text, and then the refusal cannot be told.
-/

namespace DataGateway.Sql

open Text

/-! ## Rows that cannot be written -/

/-- Have two records the same names, in whatever order? -/
def SameNames (a b : Record) : Prop := ∀ name, name ∈ a.names ↔ name ∈ b.names

/-- Why rows cannot be written into a table. -/
inductive Unwritable (table : Value) : List Record → Prop where
  | noRows : Unwritable table []
  | noColumns (rest : List Record) : Unwritable table ([] :: rest)
  | uneven {first row : Record} {rest : List Record} :
      row ∈ rest → ¬SameNames first row → Unwritable table (first :: rest)
  | column {first : Record} {rest : List Record} {name : String} :
      name ∈ first.names → ¬Passes (.text name) → Unwritable table (first :: rest)
  | table (rows : List Record) : ¬Passes table → Unwritable table rows

/-- All other rows have columns, which are the same in each, and pass with all of their names. -/
theorem not_unwritable_iff {table : Value} {rows : List Record} : ¬Unwritable table rows ↔
    ∃ first rest, rows = first :: rest ∧ first ≠ [] ∧ (∀ row ∈ rest, SameNames first row) ∧
      (∀ name ∈ first.names, Passes (.text name)) ∧ Passes table := by
  constructor
  · intro writable
    cases rows with
    | nil => exact absurd .noRows writable
    | cons first rest =>
        refine ⟨first, rest, rfl, ?_, ?_, ?_, ?_⟩
        · rintro rfl
          exact writable (.noColumns rest)
        · intro row member
          by_contra other
          exact writable (.uneven member other)
        · intro name own
          by_contra bad
          exact writable (.column own bad)
        · by_contra bad
          exact writable (.table _ bad)
  · rintro ⟨first, rest, rfl, filled, alike, named, passes⟩ bad
    cases bad with
    | noColumns rest => exact filled rfl
    | uneven member other => exact other (alike _ member)
    | column member bad => exact bad (named _ member)
    | table rows bad => exact bad passes

theorem sameColumns_iff {first row : Record} (distinct : first.names.Nodup) (own : row.names.Nodup) :
    sameColumns first row = true ↔ SameNames first row := by
  have has (name : String) : Fields.has row name = true ↔ name ∈ row.names := by
    simp [Fields.has_eq_any_names]
  constructor
  · intro same name
    have both : first.length = row.length ∧ ∀ name ∈ first.names, Fields.has row name = true := by
      simpa [sameColumns] using same
    exact ⟨fun member => (has name).1 (both.2 name member), names_of_sameColumns distinct same name⟩
  · intro same
    have perm : first.names.Perm row.names := (List.perm_ext_iff_of_nodup distinct own).2 same
    have length : first.length = row.length := by simpa [Fields.names] using perm.length_eq
    have every : ∀ name ∈ first.names, Fields.has row name = true :=
      fun name member => (has name).2 ((same name).1 member)
    simpa [sameColumns, length] using every

theorem exists_ofValue {v : Value} (passes : Passes v) : ∃ name, Identifier.ofValue v = .ok name := by
  rcases passes with ⟨s, name, rest, rfl, plain, ending, whole⟩
  have valid : isIdentifier s.toList = true := isIdentifier_iff.2 ⟨name, rest, plain, ending, whole⟩
  exact ⟨⟨s, valid⟩, dif_pos valid⟩

theorem exists_identifiers {vs : List Value} (pass : ∀ v ∈ vs, Passes v) :
    ∃ found, identifiers vs = .ok found := by
  induction vs with
  | nil => exact ⟨[], rfl⟩
  | cons v vs ih =>
      rcases List.forall_mem_cons.1 pass with ⟨first, others⟩
      rcases exists_ofValue first with ⟨name, identified⟩
      rcases ih others with ⟨names, rest⟩
      exact ⟨name :: names, by rw [identifiers, identified, rest]; rfl⟩

namespace Builder

variable {conflict : List Identifier → Option Conflict} {table : Value} {rows : List Record}

/-- Columns are texts, so of the names that rows are written under only that of the table may have no
text. -/
theorem stops_table {x : Except Fault α} (stops : Stops (recordNames rows ++ [table]) x) :
    Stops [table] x := by
  cases stops with
  | refused refusal => exact .refused refusal
  | @unprintable v member unprintable =>
      rcases List.mem_append.1 member with own | own
      · rcases List.mem_flatMap.1 own with ⟨row, _, named⟩
        rcases List.mem_map.1 named with ⟨name, _, rfl⟩
        cases unprintable
      · exact .unprintable own unprintable

/-- Rows that cannot be written are refused. -/
theorem write_refused (distinct : ∀ row ∈ rows, row.names.Nodup) (unwritable : Unwritable table rows) :
    Stops [table] (write conflict table rows) := by
  -- names that do not pass are refused wherever they stand, so only the shape of the rows is left
  have vetted : Vets (recordNames rows ++ [table]) (write conflict table rows) := vets_write distinct
  have stops {v : Value} (own : v ∈ recordNames rows ++ [table]) (bad : ¬Passes v) :
      Stops [table] (write conflict table rows) :=
    stops_table (vetted.resolve_right fun pass => bad (pass v own))
  cases unwritable with
  | noRows => exact .refused _
  | noColumns rest => exact .refused _
  | @uneven first row rest member other =>
      have own := distinct first (List.mem_cons_self ..)
      have same := sameColumns_iff own (distinct row (List.mem_cons_of_mem _ member))
      have uneven : ¬rest.all (sameColumns first) = true := fun even =>
        other (same.1 (List.all_eq_true.1 even row member))
      cases first with
      | nil => exact .refused _
      | cons field fields =>
          rw [write, rowColumns, if_neg (by simp), if_neg uneven]
          exact .refused .unevenRows
  | @column first rest name member bad =>
      have own : .text name ∈ first.names.map Value.text := List.mem_map_of_mem member
      exact stops (List.mem_append_left _ (List.mem_append_left _ own)) bad
  | table rows bad => exact stops (List.mem_append_right _ (List.mem_singleton.2 rfl)) bad

/-- Other rows are written under the columns of the first of them. -/
theorem write_ends (conflict : List Identifier → Option Conflict)
    (distinct : ∀ row ∈ rows, row.names.Nodup) (writable : ¬Unwritable table rows) :
    ∃ first name columns, rows.head? = some first ∧ columns ≠ [] ∧ name.value = table ∧
      columns.map Identifier.text = first.names ∧ (∀ row ∈ rows, SameNames first row) ∧
        write conflict table rows =
          .ok ⟨.insert name columns (placeholderGroups columns.length rows.length) (conflict columns),
            rowArguments columns rows⟩ := by
  rcases not_unwritable_iff.1 writable with ⟨first, rest, rfl, filled, alike, named, passes⟩
  have even : rest.all (sameColumns first) = true := List.all_eq_true.2 fun row member =>
    (sameColumns_iff (distinct first (List.mem_cons_self ..))
      (distinct row (List.mem_cons_of_mem _ member))).2 (alike row member)
  rcases exists_identifiers (List.forall_mem_map.2 named) with ⟨columns, identified⟩
  rcases exists_ofValue passes with ⟨name, given⟩
  have texts : columns.map Identifier.text = first.names :=
    texts_of_values (identifiers_eq_ok identified)
  refine ⟨first, name, columns, rfl, ?_, (Identifier.ofValue_eq_ok given).symm, texts,
    List.forall_mem_cons.2 ⟨fun name => Iff.rfl, alike⟩, ?_⟩
  · rintro rfl
    exact filled (List.map_eq_nil_iff.1 texts.symm)
  · rw [write, rowColumns, if_neg (by simpa using filled), if_pos even, identified, given]
    rfl

end Builder

/-! ## Reading the groups -/

/-- What was read about rows to add puts the values of these rows under their columns: they are those of
the first row in its order, there is a group for every row, and the placeholder of a group in the place
of a column stands for the value of the row in that column. -/
structure Insertion.Places (insertion : Insertion) (table : Value) (rows : List Record)
    (arguments : List Argument) : Prop where
  table : insertion.table.value = table
  columns : ∃ first, rows.head? = some first ∧ insertion.columns.map Identifier.text = first.names
  groups : insertion.groups.length = rows.length
  widths : ∀ group ∈ insertion.groups, group.length = insertion.columns.length
  cells : ∀ {i j : Nat} {row : Record} {column : Identifier}, rows[i]? = some row →
    insertion.columns[j]? = some column → ∃ group n argument value,
      insertion.groups[i]? = some group ∧ group[j]? = some n ∧
        argumentFor? arguments n = some argument ∧ Fields.get? row column.text = some value ∧
          argument.Carries value

/-- Lists of one length that were put together are found by position. -/
theorem getElem?_flatMap {α β : Type} {f : α → List β} {width : Nat} (even : ∀ a, (f a).length = width)
    {as : List α} {i j : Nat} {a : α} (found : as[i]? = some a) (inside : j < width) :
    (as.flatMap f)[i * width + j]? = (f a)[j]? := by
  induction as generalizing i with
  | nil => cases found
  | cons first as ih =>
      cases i with
      | zero =>
          cases found
          rw [Nat.zero_mul, Nat.zero_add, List.flatMap_cons,
            List.getElem?_append_left ((even a).symm ▸ inside)]
      | succ i =>
          -- the first list is passed over as a whole
          have length := even first
          have next : (i + 1) * width + j = width + (i * width + j) := by
            rw [Nat.succ_mul]
            omega
          rw [next, List.flatMap_cons, List.getElem?_append_right (by omega), length,
            Nat.add_sub_cancel_left]
          exact ih found

/-- The group of a row counts on from the groups of the rows before it. -/
theorem getElem?_placeholderGroups (width : Nat) {rows i : Nat} (inside : i < rows) :
    (placeholderGroups width rows)[i]? = some (List.range' (i * width + 1) width) := by
  simp [placeholderGroups, inside]

theorem placeholder_cell {columns : List Identifier} {rows : List Record} {i j : Nat} {row : Record}
    {column : Identifier} {value : Value} (there : rows[i]? = some row)
    (listed : columns[j]? = some column) (found : Fields.get? row column.text = some value) :
    ∃ group n, ((placeholderGroups columns.length rows.length).map fun group =>
        group.map Int.ofNat)[i]? = some group ∧ group[j]? = some n ∧
      argumentFor? (rowArguments columns rows) n = some (.ofValue value) := by
  have inside : i < rows.length := (List.getElem?_eq_some_iff.1 there).1
  have within : j < columns.length := (List.getElem?_eq_some_iff.1 listed).1
  refine ⟨(List.range' (i * columns.length + 1) columns.length).map Int.ofNat,
    (i * columns.length + 1 + j : Nat), ?_, ?_, ?_⟩
  · rw [List.getElem?_map, getElem?_placeholderGroups _ inside]
    rfl
  · simp [within]
  · -- placeholders count from one on, places in the list from zero
    have place : (i * columns.length + 1 + j : Nat) - 1 = i * columns.length + j := by omega
    rw [argumentFor?, if_pos (by omega), Int.toNat_natCast, place, rowArguments,
      getElem?_flatMap (fun row => List.length_map _) there within, List.getElem?_map, listed]
    simp [found]

/-! ## Statements that add rows -/

/-- The rule that assigns the columns to those of the row that was to be added, all but the target and
the time of creation. -/
def Rule.assigning (target : Identifier) (columns : List Identifier) : Rule :=
  let kept := columns.filter fun c => decide (c.text ≠ target.text ∧ c.text ≠ "created_at")
  if kept = [] then .nothing else .overwrite target (kept.map fun c => (c, c))

theorem Identifier.text_inj {a b : Identifier} : a.text = b.text ↔ a = b := by
  cases a
  cases b
  simp

namespace Builder

variable {table : Value} {rows : List Record}

theorem rule_overwritten (builder : Builder) (columns : List Identifier) :
    Conflict.rule ⟨builder.conflictColumn, builder.overwritten columns⟩ =
      .assigning builder.conflictColumn columns := by
  have kept : builder.overwritten columns = columns.filter fun c =>
      decide (c.text ≠ builder.conflictColumn.text ∧ c.text ≠ "created_at") := by
    refine List.filter_congr fun c _ => ?_
    rw [Bool.eq_iff_iff]
    simp [Identifier.text_inj]
  rw [Conflict.rule, kept]
  rfl

theorem write_places (conflict : List Identifier → Option Conflict)
    (distinct : ∀ row ∈ rows, row.names.Nodup) (writable : ¬Unwritable table rows) :
    ∃ prepared insertion, write conflict table rows = .ok prepared ∧
      readInsert? prepared.statement.text = some insertion ∧
      insertion.Places table rows prepared.arguments ∧
      insertion.rule = (conflict insertion.columns).map Conflict.rule := by
  rcases write_ends conflict distinct writable with
    ⟨first, name, columns, head, filled, named, texts, alike, written⟩
  have some : rows ≠ [] := by
    rintro rfl
    cases head
  have groups : placeholderGroups columns.length rows.length ≠ [] := by
    simpa [placeholderGroups] using some
  have full : ∀ group ∈ placeholderGroups columns.length rows.length, group ≠ [] := by
    intro group member
    rcases List.mem_map.1 member with ⟨row, _, rfl⟩
    simpa using filled
  refine ⟨_, _, written, readInsert?_text name (conflict columns) filled groups full, ?_, rfl⟩
  refine ⟨named, ⟨first, head, texts⟩, by simp [placeholderGroups], by simp [placeholderGroups], ?_⟩
  intro i j row column there listed
  -- every row has a value for a column of the first
  have member : column.text ∈ row.names := by
    have own : column.text ∈ first.names := texts ▸ List.mem_map_of_mem (List.mem_of_getElem? listed)
    exact (alike row (List.mem_of_getElem? there) column.text).1 own
  rcases Option.isSome_iff_exists.1 (Fields.mem_names_iff.1 member) with ⟨value, found⟩
  rcases placeholder_cell there listed found with ⟨group, n, grouped, placed, argument⟩
  exact ⟨group, n, _, value, grouped, placed, argument, found,
    Argument.carries_ofValue value⟩

/-- Rows that cannot be written are refused, whether they are to be added or to overwrite others, unless
the table has no name that the refusal could repeat; there is no statement then either. All other rows have a statement whose groups, read by position with its arguments, put the value of every
row under its column. A statement that overwrites assigns just the columns that are neither the conflict
column nor the time of creation, and without such columns it leaves rows that are there alone. -/
theorem writes_under_columns (builder : Builder) (table : Value) {rows : List Record}
    (mappings : ∀ row ∈ rows, row.names.Nodup) :
    (Unwritable table rows →
      Stops [table] (insert table rows) ∧ Stops [table] (builder.upsert table rows)) ∧
      (¬Unwritable table rows →
        (∃ prepared insertion, insert table rows = .ok prepared ∧
          readInsert? prepared.statement.text = some insertion ∧
          insertion.Places table rows prepared.arguments ∧ insertion.rule = none) ∧
        ∃ prepared insertion, builder.upsert table rows = .ok prepared ∧
          readInsert? prepared.statement.text = some insertion ∧
          insertion.Places table rows prepared.arguments ∧
          insertion.rule = some (.assigning builder.conflictColumn insertion.columns)) := by
  constructor
  · intro bad
    exact ⟨write_refused mappings bad, write_refused mappings bad⟩
  · intro writable
    refine ⟨write_places _ mappings writable, ?_⟩
    let conflict := fun columns => some (Conflict.mk builder.conflictColumn (builder.overwritten columns))
    rcases write_places conflict mappings writable with
      ⟨prepared, insertion, written, read, places, rule⟩
    refine ⟨prepared, insertion, written, read, places, ?_⟩
    rw [rule, Option.map_some, rule_overwritten]

/-- Two users who have their columns in two orders, and two who have other columns. -/
theorem writes_under_columns_users :
    let builder : Builder := ⟨⟨"id", rfl⟩⟩
    let first : Record := [("id", .int 1), ("created_at", .null), ("tags", .list [.null])]
    let second : Record := [("tags", .object []), ("id", .text "b"), ("created_at", .bool true)]
    (∀ row ∈ [first, second], row.names.Nodup) ∧
      (∃ prepared insertion, builder.upsert (.text "users") [first, second] = .ok prepared ∧
        readInsert? prepared.statement.text = some insertion ∧
        insertion.Places (.text "users") [first, second] prepared.arguments ∧
        insertion.rule = some (.assigning builder.conflictColumn insertion.columns)) ∧
      Stops [.text "users"] (insert (.text "users") [first, [("id", .int 2)]]) := by
  intro builder first second
  have distinct : ∀ row ∈ [first, second], row.names.Nodup := by decide +kernel
  have uneven : ∀ row ∈ [first, [("id", Value.int 2)]], row.names.Nodup := by decide +kernel
  have alike : SameNames first second :=
    (sameColumns_iff (by decide +kernel) (by decide +kernel)).1 (by decide +kernel)
  have pass {name : String} (valid : isIdentifier name.toList = true) : Passes (.text name) :=
    (Identifier.mk name valid).passes
  have valid : ∀ name ∈ first.names, isIdentifier name.toList = true := by decide +kernel
  have named : ∀ name ∈ first.names, Passes (.text name) := fun name member => pass (valid name member)
  have writable : ¬Unwritable (.text "users") [first, second] :=
    not_unwritable_iff.2 ⟨first, [second], rfl, nofun, by simpa using alike, named, pass (by decide +kernel)⟩
  have other : ¬SameNames first [("id", .int 2)] := by
    intro same
    have extra : "tags" ∈ ["id"] := (same "tags").1 (by decide +kernel)
    exact absurd extra (by decide)
  have bad : Unwritable (.text "users") [first, [("id", .int 2)]] :=
    .uneven (List.mem_singleton.2 rfl) other
  exact ⟨distinct, ((writes_under_columns builder (.text "users") distinct).2 writable).2,
    ((writes_under_columns builder (.text "users") uneven).1 bad).1⟩

end Builder

end DataGateway.Sql
