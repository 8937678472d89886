import DataGateway.Proofs.Except
import DataGateway.Proofs.Sql.Meaning
import DataGateway.Proofs.Sql.Placeholders

/-!
# Numbering of placeholders

Every statement that the builder makes counts its arguments: its placeholders are the numbers from
one to the number of arguments, in the order of the text.

* `Builder.Request` — what a builder is asked for, one constructor for every kind of statement;
* `Prepared.IsNumbered` — the placeholders count the arguments;
* `Builder.prepare_placeholders` — the text of every prepared statement shows these placeholders,
  and the driver's form has one marker for each and the arguments as they are.
-/

namespace DataGateway.Sql

/-! ## Requests -/

namespace Builder

/-- What a builder is asked for. -/
inductive Request
  | select (table columns : Value) (spec : Spec) (order : Option (Value × Value))
      (limit offset : Value)
  | insert (table : Value) (rows : List Record)
  | upsert (table : Value) (rows : List Record)
  | update (table : Value) (spec : Spec) (patch : Value)
  | delete (table : Value) (spec : Spec)
  | count (table : Value) (spec : Spec)
  | rpc (name params : Value)

/-- The statement for a request, with its arguments. -/
def prepare (builder : Builder) : Request → Except Fault Prepared
  | .select table columns spec order limit offset => select table columns spec order limit offset
  | .insert table rows => insert table rows
  | .upsert table rows => builder.upsert table rows
  | .update table spec patch => update table spec patch
  | .delete table spec => delete table spec
  | .count table spec => count table spec
  | .rpc name params => rpc name params

end Builder

/-! ## Numbers of the parts -/

/-- Do the placeholders of a statement count its arguments from one on? -/
structure Prepared.IsNumbered (prepared : Prepared) : Prop where
  numbers : prepared.statement.numbers = List.range' 1 prepared.arguments.length
  positive : ∀ clause ∈ prepared.statement.clauses, clause.IsNumberedFrom 0

/-- The clauses of a specification take one number for each argument, from the start on. -/
theorem Lowered.clauseNumbers {start : Int} {spec : Spec} {clauses : List Clause}
    {arguments : List Argument} (h : Lowered start spec clauses arguments) (positive : 0 ≤ start) :
    Sql.clauseNumbers clauses = List.range' start.toNat arguments.length := by
  induction h with
  | nil start => rfl
  | isNull column _ ih => exact ih positive
  | @compared start spec clauses arguments condition comparison argument column _ _ ih =>
      have others := ih (by omega)
      -- the clause has the number of the start, the others go on from the next one
      have next : (start + 1).toNat = start.toNat + 1 := by omega
      rw [next] at others
      rw [List.length_cons, List.range'_succ, ← others]
      rfl

theorem Lowered.positive {start : Int} {spec : Spec} {clauses : List Clause}
    {arguments : List Argument} (h : Lowered start spec clauses arguments) (positive : 0 ≤ start) :
    ∀ clause ∈ clauses, clause.IsNumberedFrom 0 := by
  intro clause hc
  exact (h.isNumberedFrom clause hc).mono positive

theorem numbered_snd (start : Nat) (names : List Identifier) :
    (numbered start names).map Prod.snd = List.range' start names.length :=
  List.zipIdx_map_snd start names

theorem flatten_placeholderGroups (width rows : Nat) :
    (placeholderGroups width rows).flatten = List.range' 1 (rows * width) := by
  induction rows with
  | zero => simp [placeholderGroups]
  | succ rows ih =>
      -- the last row of the grid begins where the rows before it stop
      have last : placeholderGroups width (rows + 1) =
          placeholderGroups width rows ++ [List.range' (rows * width + 1) width] := by
        simp [placeholderGroups, List.range_succ]
      calc
        (placeholderGroups width (rows + 1)).flatten
            = List.range' 1 (rows * width) ++ List.range' (1 + rows * width) width := by
              rw [last, List.flatten_append, ih, Nat.add_comm 1]
              simp
        _ = List.range' 1 (rows * width + width) := List.range'_append_1
        _ = List.range' 1 ((rows + 1) * width) := by rw [Nat.succ_mul]

theorem length_rowArguments (columns : List Identifier) (rows : List Record) :
    (rowArguments columns rows).length = rows.length * columns.length := by
  rw [rowArguments, List.length_flatMap]
  simp [List.map_const']

theorem length_identifiers {names : List Value} {found : List Identifier}
    (h : identifiers names = .ok found) : found.length = names.length := by
  induction names generalizing found with
  | nil =>
      cases h
      rfl
  | cons v names ih =>
      rcases bind_eq_ok_iff.1 h with ⟨name, _, h⟩
      rcases bind_eq_ok_iff.1 h with ⟨others, rest, h⟩
      cases h
      simp [ih rest]

/-! ## Statements of the builder -/

namespace Builder

variable {prepared : Prepared}

theorem isNumbered_select {table columns limit offset : Value} {spec : Spec}
    {order : Option (Value × Value)}
    (h : select table columns spec order limit offset = .ok prepared) : prepared.IsNumbered := by
  rcases bind_eq_ok_iff.1 h with ⟨⟨clauses, arguments⟩, lowers, h⟩
  have lowered := lowered_of_clausesOf lowers
  rcases bind_eq_ok_iff.1 h with ⟨columns, _, h⟩
  rcases bind_eq_ok_iff.1 h with ⟨table, _, h⟩
  rcases bind_eq_ok_iff.1 h with ⟨order, _, h⟩
  rcases bind_eq_ok_iff.1 h with ⟨limit, _, h⟩
  rcases bind_eq_ok_iff.1 h with ⟨offset, _, h⟩
  cases h
  exact ⟨lowered.clauseNumbers (by decide), lowered.positive (by decide)⟩

/-- The grid of placeholders has as many columns as the rows, whatever the rule for conflicts. -/
theorem isNumbered_write {conflict : List Identifier → Option Conflict} {table : Value}
    {rows : List Record} (h : write conflict table rows = .ok prepared) : prepared.IsNumbered := by
  rcases bind_eq_ok_iff.1 h with ⟨columns, _, h⟩
  rcases bind_eq_ok_iff.1 h with ⟨table, _, h⟩
  cases h
  constructor
  · rw [length_rowArguments]
    exact flatten_placeholderGroups columns.length rows.length
  · intro clause hc
    cases hc

theorem elements_object (fields : Record) :
    (Value.object fields).elements = .ok (fields.names.map .text) := by
  simp [Value.elements, Fields.names]

/-- The names of a patch are those of its fields, so there is one value for every name. -/
theorem length_names_eq_values {v : Value} {names : List Value} {found : List Identifier}
    {fields : Record} {member : String} (goes : v.elements = .ok names)
    (named : identifiers names = .ok found) (has : v.fieldsFor member = .ok fields) :
    found.length = fields.values.length := by
  cases v with
  | object own =>
      cases goes
      cases has
      simp [length_identifiers named, Fields.values]
  | _ => cases has

theorem isNumbered_update {table patch : Value} {spec : Spec}
    (h : update table spec patch = .ok prepared) : prepared.IsNumbered := by
  rcases guard_eq_ok_iff.1 h with ⟨_, h⟩
  rcases guard_eq_ok_iff.1 h with ⟨_, h⟩
  rcases bind_eq_ok_iff.1 h with ⟨names, goes, h⟩
  rcases bind_eq_ok_iff.1 h with ⟨columns, named, h⟩
  rcases bind_eq_ok_iff.1 h with ⟨fields, has, h⟩
  rcases bind_eq_ok_iff.1 h with ⟨⟨clauses, arguments⟩, lowers, h⟩
  rcases bind_eq_ok_iff.1 h with ⟨table, _, h⟩
  cases h
  have lowered := lowered_of_clausesOf lowers
  have width := length_names_eq_values goes named has
  -- the condition goes on where the assignments stop
  have condition := lowered.clauseNumbers (by omega)
  have next : ((fields.values.map Argument.ofValue).length + 1 : Int).toNat =
      1 + fields.values.length := by
    rw [List.length_map]
    omega
  rw [next] at condition
  refine ⟨?_, lowered.positive (by omega)⟩
  calc
    (numbered 1 columns).map Prod.snd ++ clauseNumbers clauses
        = List.range' 1 fields.values.length ++
            List.range' (1 + fields.values.length) arguments.length := by
          rw [numbered_snd, width, condition]
    _ = List.range' 1 (fields.values.length + arguments.length) := List.range'_append_1
    _ = List.range' 1 (fields.values.map Argument.ofValue ++ arguments).length := by
          rw [List.length_append, List.length_map]

theorem isNumbered_delete {table : Value} {spec : Spec} (h : delete table spec = .ok prepared) :
    prepared.IsNumbered := by
  rcases guard_eq_ok_iff.1 h with ⟨_, h⟩
  rcases bind_eq_ok_iff.1 h with ⟨⟨clauses, arguments⟩, lowers, h⟩
  rcases bind_eq_ok_iff.1 h with ⟨table, _, h⟩
  cases h
  have lowered := lowered_of_clausesOf lowers
  exact ⟨lowered.clauseNumbers (by decide), lowered.positive (by decide)⟩

theorem isNumbered_count {table : Value} {spec : Spec} (h : count table spec = .ok prepared) :
    prepared.IsNumbered := by
  rcases bind_eq_ok_iff.1 h with ⟨⟨clauses, arguments⟩, lowers, h⟩
  rcases bind_eq_ok_iff.1 h with ⟨table, _, h⟩
  cases h
  have lowered := lowered_of_clausesOf lowers
  exact ⟨lowered.clauseNumbers (by decide), lowered.positive (by decide)⟩

theorem isNumbered_rpc {name params : Value} (h : rpc name params = .ok prepared) :
    prepared.IsNumbered := by
  rcases bind_eq_ok_iff.1 h with ⟨names, goes, h⟩
  rcases bind_eq_ok_iff.1 h with ⟨found, named, h⟩
  rcases bind_eq_ok_iff.1 h with ⟨function, _, h⟩
  rcases bind_eq_ok_iff.1 h with ⟨fields, has, h⟩
  cases h
  have width := length_names_eq_values goes named has
  constructor
  · simp [Statement.numbers, numbered_snd, width]
  · intro clause hc
    cases hc

theorem isNumbered_prepare {builder : Builder} {request : Request}
    (h : builder.prepare request = .ok prepared) : prepared.IsNumbered := by
  cases request with
  | select table columns spec order limit offset => exact isNumbered_select h
  | insert table rows => exact isNumbered_write h
  | upsert table rows => exact isNumbered_write h
  | update table spec patch => exact isNumbered_update h
  | delete table spec => exact isNumbered_delete h
  | count table spec => exact isNumbered_count h
  | rpc name params => exact isNumbered_rpc h

end Builder

/-! ## The driver's form -/

/-- The markers of a text in the driver's form; a doubled percent sign is none. -/
def markers : List Char → Nat
  | '%' :: '%' :: rest => markers rest
  | '%' :: 's' :: rest => markers rest + 1
  | _ :: rest => markers rest
  | [] => 0

theorem markers_formatted (piece : Piece) (rest : List Char) :
    markers (piece.formatted ++ rest) = piece.digits?.toList.length + markers rest := by
  cases piece with
  | placeholder digits => simp [Piece.formatted, Piece.digits?, markers, Nat.add_comm]
  | char c =>
      by_cases percent : c = '%'
      · simp [Piece.formatted, Piece.digits?, percent, markers]
      · have alone : Piece.formatted (.char c) = [c] := by simp [Piece.formatted, percent]
        rw [alone]
        simp [Piece.digits?, markers, percent]

theorem markers_flatMap_formatted (pieces : List Piece) :
    markers (pieces.flatMap Piece.formatted) = (pieces.filterMap Piece.digits?).length := by
  induction pieces with
  | nil => rfl
  | cons piece pieces ih =>
      rw [List.flatMap_cons, markers_formatted, ih]
      cases found : piece.digits? with
      | none => simp [found]
      | some digits => simp [found, Nat.add_comm]

theorem placeholderNumber_toDigits {n : Nat} (readable : n < 10 ^ Numeral.digitLimit) :
    placeholderNumber (Nat.toDigits 10 n) = .ok n := by
  simp [placeholderNumber, Value.readWhole, Numeral.whole_toDigits readable]

theorem placeholderNumbers_eq_ok {pieces : List Piece} {numbers : List Nat}
    (shown : pieces.filterMap Piece.digits? = numbers.map (Nat.toDigits 10))
    (readable : ∀ n ∈ numbers, n < 10 ^ Numeral.digitLimit) :
    placeholderNumbers pieces = .ok (numbers.map Int.ofNat) := by
  -- induction on the pieces; every placeholder takes the next of the numbers
  induction pieces generalizing numbers with
  | nil =>
      have none : numbers = [] := by simpa using shown.symm
      rw [none]
      rfl
  | cons piece pieces ih =>
      cases piece with
      | char c => exact ih shown readable
      | placeholder digits =>
          cases numbers with
          | nil => cases shown
          | cons n numbers =>
              rcases List.cons.inj shown with ⟨rfl, others⟩
              have first := placeholderNumber_toDigits (readable n (List.mem_cons_self ..))
              have rest := ih others fun m hm => readable m (List.mem_cons_of_mem n hm)
              simp [placeholderNumbers, first, rest, bind, Except.bind, pure, Except.pure]

theorem filterMap_getElem?_range {α : Type} (arguments : List α) :
    (List.range arguments.length).filterMap (arguments[·]?) = arguments := by
  induction arguments with
  | nil => rfl
  | cons a arguments ih =>
      rw [List.length_cons, List.range_succ_eq_map, List.filterMap_cons, List.filterMap_map]
      simpa [Function.comp_def] using ih

theorem filterMap_getElem?_range' {α : Type} (arguments : List α) :
    (List.range' 1 arguments.length).filterMap (fun n => arguments[n - 1]?) = arguments := by
  rw [List.range'_eq_map_range, List.filterMap_map]
  simpa [Function.comp_def] using filterMap_getElem?_range arguments

/-- A text that shows the numbers of its arguments goes over as it is, one marker for each. -/
theorem driverForm_of_numeralsIn {α : Type} {text : String} {arguments : List α}
    (shown : numeralsIn text.toList = (List.range' 1 arguments.length).map (Nat.toDigits 10))
    (readable : arguments.length < 10 ^ Numeral.digitLimit) :
    ∃ format, driverForm text arguments = .ok (format, arguments) ∧
      markers format.toList = arguments.length := by
  have numbers := placeholderNumbers_eq_ok shown fun n hn => by
    have bound := (List.mem_range'_1.1 hn).2
    omega
  have within : ((List.range' 1 arguments.length).map Int.ofNat).any
      (fun n => n < 1 || (arguments.length : Int) < n) = false := by
    apply List.any_eq_false.2
    intro n hn
    rcases List.mem_map.1 hn with ⟨k, hk, rfl⟩
    have bounds := List.mem_range'_1.1 hk
    simp
    omega
  have order : ((List.range' 1 arguments.length).map Int.ofNat).filterMap
      (fun n => arguments[n.toNat - 1]?) = arguments := by
    rw [List.filterMap_map]
    exact filterMap_getElem?_range' arguments
  refine ⟨String.ofList ((piecesOf text.toList).flatMap Piece.formatted), ?_, ?_⟩
  · simp only [driverForm, numbers, bind, Except.bind, within]
    rw [order]
    rfl
  · have count := congrArg List.length shown
    rw [String.toList_ofList, markers_flatMap_formatted]
    simpa [numeralsIn] using count

/-! ## Every statement -/

/-- The placeholders in the text of a prepared statement are the numbers from one to the number of
its arguments, and the driver's form has the arguments as they are and a marker for each. The bound
is that of numerals: a placeholder with more digits could not be read. -/
theorem Builder.prepare_placeholders {builder : Builder} {request : Builder.Request}
    {prepared : Prepared} (h : builder.prepare request = .ok prepared) :
    numeralsIn prepared.statement.text.toList =
        (List.range' 1 prepared.arguments.length).map (Nat.toDigits 10) ∧
      (prepared.arguments.length < 10 ^ Numeral.digitLimit →
        ∃ format, driverForm prepared.statement.text prepared.arguments =
            .ok (format, prepared.arguments) ∧
          markers format.toList = prepared.arguments.length) := by
  have numbered := Builder.isNumbered_prepare h
  have shown : numeralsIn prepared.statement.text.toList =
      (List.range' 1 prepared.arguments.length).map (Nat.toDigits 10) := by
    have whole := Statement.shows_text numbered.positive [] (by decide)
    rw [numbered.numbers] at whole
    simpa [numeralsIn, piecesOf] using whole
  exact ⟨shown, driverForm_of_numeralsIn shown⟩

/-- A check for null takes no number, and the condition goes on after the assignments. -/
theorem Builder.prepare_placeholders_update :
    ∃ prepared format,
      Builder.prepare ⟨⟨"id", by decide⟩⟩ (.update (.text "users")
          [("left", .isNull), ("age", .gt (.int 3)), ("name", .ilike (.text "a%"))]
          (.object [("role", .text "x"), ("age", .null)])) = .ok prepared ∧
        numeralsIn prepared.statement.text.toList = [['1'], ['2'], ['3'], ['4']] ∧
        driverForm prepared.statement.text prepared.arguments = .ok (format, prepared.arguments) ∧
        markers format.toList = 4 := by
  have built : Builder.prepare ⟨⟨"id", by decide⟩⟩ (.update (.text "users")
      [("left", .isNull), ("age", .gt (.int 3)), ("name", .ilike (.text "a%"))]
      (.object [("role", .text "x"), ("age", .null)])) = .ok ⟨.update ⟨"users", by decide⟩
        [(⟨"role", by decide⟩, 1), (⟨"age", by decide⟩, 2)]
        [.isNull ⟨"left", by decide⟩, .compared ⟨"age", by decide⟩ .greater 3,
          .compared ⟨"name", by decide⟩ .ilike 4],
        [.plain (.text "x"), .plain .null, .plain (.int 3), .plain (.text "%a\\%%")]⟩ := by
    rfl
  rcases Builder.prepare_placeholders built with ⟨shown, goes⟩
  -- the limit is never computed
  have few : 4 < 10 ^ Numeral.digitLimit :=
    Nat.lt_of_lt_of_le (by decide : 4 < 10 ^ 1)
      (Nat.pow_le_pow_right (by decide) (by decide : 1 ≤ Numeral.digitLimit))
  rcases goes few with ⟨format, form, count⟩
  exact ⟨_, format, built, shown, form, count⟩

end DataGateway.Sql
