import DataGateway.Proofs.Fields
import DataGateway.Proofs.Sql.Numbering

/-!
# Shape of statements

The text of a statement is made of names and of the kinds of conditions; values never reach it. Two
requests that differ in values only are refused for the same reason, or have the same statement and
as many arguments.

* `Spec.outline` — the columns of a specification with the kinds of their conditions;
* `Builder.Request.Alike` — two requests that differ in values only;
* `Builder.prepare_alike` — their statements are the same.
-/

namespace DataGateway

/-! ## Shape of filters and rows -/

/-- The columns of a specification with the kinds of their conditions. -/
def Spec.outline (spec : Spec) : List (String × String) :=
  spec.map fun (column, condition) => (column, condition.operator)

namespace Sql

/-- The comparison of a kind of conditions. -/
def comparisonNamed (operator : String) : Except Fault (Option Comparison) :=
  match operator with
  | "eq" => .ok (some .equal)
  | "neq" => .ok (some .notEqual)
  | "gt" => .ok (some .greater)
  | "gte" => .ok (some .greaterOrEqual)
  | "lt" => .ok (some .less)
  | "lte" => .ok (some .lessOrEqual)
  | "like" => .ok (some .like)
  | "ilike" => .ok (some .ilike)
  | "in" => .ok (some .anyOf)
  | "is" => .ok none
  | _ => .error (.misuse (.missingKey Condition.unspecifiedName))

/-- The kind of a condition decides its comparison, its operand only the argument. -/
theorem comparisonOf?_kind (condition : Condition) :
    Option.map Prod.fst <$> comparisonOf? condition = comparisonNamed condition.operator := by
  cases condition <;> rfl

/-- Have two records with these names the same columns? -/
def sameNames (a b : List String) : Bool :=
  a.length == b.length && a.all fun name => b.any (name == ·)

/-- The columns of rows with these names. -/
def columnsNamed : List (List String) → Except Fault (List Identifier)
  | [] => .error (.refused .noRows)
  | first :: rest =>
    if first.isEmpty then .error (.refused .noRows)
    else if rest.all (sameNames first) then identifiers (first.map .text)
    else .error (.refused .unevenRows)

theorem sameColumns_eq (a b : Record) : sameColumns a b = sameNames a.names b.names := by
  simp [sameColumns, sameNames, Fields.has_eq_any_names, Fields.names]

/-- The columns of rows depend on nothing but the names in them. -/
theorem rowColumns_eq (rows : List Record) : rowColumns rows = columnsNamed (rows.map Fields.names) := by
  cases rows with
  | nil => rfl
  | cons first rest =>
      have empty : first.isEmpty = first.names.isEmpty := by simp [Fields.names]
      have shared : rest.all (sameColumns first) = (rest.map Fields.names).all (sameNames first.names) := by
        rw [List.all_map]
        exact congrArg rest.all (funext fun row => sameColumns_eq first row)
      simp only [rowColumns, columnsNamed, List.map_cons, empty, shared]

/-! ## Requests that differ in values -/

/-- Two requests that differ in values only: those of rows, of a patch or of parameters, and the
operands of conditions. -/
inductive Builder.Request.Alike : Builder.Request → Builder.Request → Prop
  | select {table columns limit offset : Value} {order : Option (Value × Value)} {spec other : Spec} :
      spec.outline = other.outline →
      Alike (.select table columns spec order limit offset)
        (.select table columns other order limit offset)
  | insert {table : Value} {rows others : List Record} :
      rows.map Fields.names = others.map Fields.names →
      Alike (.insert table rows) (.insert table others)
  | upsert {table : Value} {rows others : List Record} :
      rows.map Fields.names = others.map Fields.names →
      Alike (.upsert table rows) (.upsert table others)
  | update {table : Value} {spec other : Spec} {patch values : Record} :
      spec.outline = other.outline → patch.names = values.names →
      Alike (.update table spec (.object patch)) (.update table other (.object values))
  | delete {table : Value} {spec other : Spec} :
      spec.outline = other.outline → Alike (.delete table spec) (.delete table other)
  | count {table : Value} {spec other : Spec} :
      spec.outline = other.outline → Alike (.count table spec) (.count table other)
  | rpc {name : Value} {params values : Record} :
      params.names = values.names →
      Alike (.rpc name (.object params)) (.rpc name (.object values))

/-- The same statement with as many arguments. -/
def Prepared.Alike (prepared other : Prepared) : Prop :=
  prepared.statement = other.statement ∧ prepared.arguments.length = other.arguments.length

/-- Clauses of one shape: the same clauses with as many arguments. -/
theorem clausesOf_alike (start : Int) {spec other : Spec} (same : spec.outline = other.outline) :
    EndAlike (fun a b => a.1 = b.1 ∧ a.2.length = b.2.length) (clausesOf start spec)
      (clausesOf start other) := by
  -- induction on the specification; both runs take their numbers in the same places
  induction spec generalizing start other with
  | nil =>
      have none : other = [] := by simpa [Spec.outline] using same.symm
      rw [none]
      exact .ended ⟨rfl, rfl⟩
  | cons entry spec ih =>
      cases other with
      | nil => cases same
      | cons second other =>
          rcases entry with ⟨column, condition⟩
          rcases second with ⟨name, test⟩
          rcases List.cons.inj same with ⟨heads, tails⟩
          rcases Prod.mk.inj heads with ⟨rfl, kind⟩
          have compared : EndAlike (fun a b => Option.map Prod.fst a = Option.map Prod.fst b)
              (comparisonOf? condition) (comparisonOf? test) := by
            apply EndAlike.of_map_eq
            rw [comparisonOf?_kind, comparisonOf?_kind, kind]
          unfold clausesOf
          apply EndAlike.after
          intro column
          apply compared.bind
          intro a b agree
          cases a with
          | none =>
              cases b with
              | some _ => cases agree
              | none =>
                  apply (ih start tails).bind
                  rintro ⟨clauses, arguments⟩ ⟨_, others⟩ ⟨rfl, count⟩
                  exact .ended ⟨rfl, count⟩
          | some pair =>
              cases b with
              | none => cases agree
              | some other =>
                  rcases pair with ⟨comparison, argument⟩
                  rcases other with ⟨comparison', argument'⟩
                  cases agree
                  apply (ih (start + 1) tails).bind
                  rintro ⟨clauses, arguments⟩ ⟨_, others⟩ ⟨rfl, count⟩
                  exact .ended ⟨rfl, congrArg (· + 1) count⟩

/-! ## Statements of one shape -/

section Names

variable {fields others : Record} (named : fields.names = others.names)

include named

theorem length_eq_of_names : fields.length = others.length := by
  simpa [Fields.names] using congrArg List.length named

theorem truthy_of_names : (Value.object fields).truthy = (Value.object others).truthy := by
  have many := length_eq_of_names named
  cases fields <;> cases others <;> simp_all [Value.truthy]

theorem elements_of_names : (Value.object fields).elements = (Value.object others).elements := by
  rw [Builder.elements_object, Builder.elements_object, named]

end Names

namespace Builder

variable {spec other : Spec}

theorem isEmpty_of_outline (same : spec.outline = other.outline) : spec.isEmpty = other.isEmpty := by
  have empty (spec : Spec) : spec.isEmpty = spec.outline.isEmpty := by simp [Spec.outline]
  rw [empty, empty, same]

theorem select_alike (table columns limit offset : Value) (order : Option (Value × Value))
    (same : spec.outline = other.outline) :
    EndAlike Prepared.Alike (select table columns spec order limit offset)
      (select table columns other order limit offset) := by
  apply (clausesOf_alike 1 same).bind
  rintro ⟨clauses, arguments⟩ ⟨_, others⟩ ⟨rfl, count⟩
  apply EndAlike.after
  intro columns
  apply EndAlike.after
  intro table
  apply EndAlike.after
  intro order
  apply EndAlike.after
  intro limit
  apply EndAlike.after
  intro offset
  exact .ended ⟨rfl, count⟩

theorem write_alike (conflict : List Identifier → Option Conflict) (table : Value)
    {rows others : List Record} (same : rows.map Fields.names = others.map Fields.names) :
    EndAlike Prepared.Alike (write conflict table rows) (write conflict table others) := by
  have many : rows.length = others.length := by simpa using congrArg List.length same
  have columns : rowColumns rows = rowColumns others := by
    rw [rowColumns_eq, rowColumns_eq, same]
  rw [write, write, columns]
  apply EndAlike.after
  intro columns
  apply EndAlike.after
  intro table
  -- the grid of placeholders is as high as there are rows, whatever they hold
  rw [many]
  refine .ended ⟨rfl, ?_⟩
  rw [length_rowArguments, length_rowArguments, many]

theorem update_alike (table : Value) {patch values : Record} (same : spec.outline = other.outline)
    (named : patch.names = values.names) :
    EndAlike Prepared.Alike (update table spec (.object patch))
      (update table other (.object values)) := by
  have many : patch.length = values.length := length_eq_of_names named
  unfold update
  apply EndAlike.guard
  · rw [isEmpty_of_outline same]
  apply EndAlike.guard
  · rw [truthy_of_names named]
  rw [elements_of_names named]
  apply EndAlike.after
  intro names
  apply EndAlike.after
  intro columns
  -- the condition goes on after as many assignments
  have start : (patch.values.map Argument.ofValue).length = (values.values.map Argument.ofValue).length := by
    simpa [Fields.values] using many
  change EndAlike Prepared.Alike
    (clausesOf ((patch.values.map Argument.ofValue).length + 1) spec >>= _)
    (clausesOf ((values.values.map Argument.ofValue).length + 1) other >>= _)
  rw [start]
  apply (clausesOf_alike _ same).bind
  rintro ⟨clauses, arguments⟩ ⟨_, others⟩ ⟨rfl, count⟩
  apply EndAlike.after
  intro table
  refine .ended ⟨rfl, ?_⟩
  rw [List.length_append, List.length_append, start, count]

theorem delete_alike (table : Value) (same : spec.outline = other.outline) :
    EndAlike Prepared.Alike (delete table spec) (delete table other) := by
  unfold delete
  apply EndAlike.guard
  · rw [isEmpty_of_outline same]
  apply (clausesOf_alike 1 same).bind
  rintro ⟨clauses, arguments⟩ ⟨_, others⟩ ⟨rfl, count⟩
  apply EndAlike.after
  intro table
  exact .ended ⟨rfl, count⟩

theorem count_alike (table : Value) (same : spec.outline = other.outline) :
    EndAlike Prepared.Alike (count table spec) (count table other) := by
  apply (clausesOf_alike 1 same).bind
  rintro ⟨clauses, arguments⟩ ⟨_, others⟩ ⟨rfl, count⟩
  apply EndAlike.after
  intro table
  exact .ended ⟨rfl, count⟩

theorem rpc_alike (name : Value) {params values : Record} (named : params.names = values.names) :
    EndAlike Prepared.Alike (rpc name (.object params)) (rpc name (.object values)) := by
  have many : params.length = values.length := length_eq_of_names named
  unfold rpc
  rw [elements_of_names named]
  apply EndAlike.after
  intro names
  apply EndAlike.after
  intro columns
  apply EndAlike.after
  intro function
  refine .ended ⟨rfl, ?_⟩
  simpa [Fields.values] using many

theorem prepare_endAlike (builder : Builder) {request other : Request} (alike : request.Alike other) :
    EndAlike Prepared.Alike (builder.prepare request) (builder.prepare other) := by
  cases alike with
  | select same => exact select_alike _ _ _ _ _ same
  | insert same => exact write_alike _ _ same
  | upsert same => exact write_alike _ _ same
  | update same named => exact update_alike _ same named
  | delete same => exact delete_alike _ same
  | count same => exact count_alike _ same
  | rpc named => exact rpc_alike _ named

/-- Requests that differ in values only fail with the same fault, or have the same text and as many
arguments. -/
theorem prepare_alike {builder : Builder} {request other : Request} (alike : request.Alike other) :
    (∃ fault, builder.prepare request = .error fault ∧ builder.prepare other = .error fault) ∨
      ∃ prepared second, builder.prepare request = .ok prepared ∧
        builder.prepare other = .ok second ∧
        prepared.statement.text = second.statement.text ∧
        prepared.arguments.length = second.arguments.length := by
  generalize first : builder.prepare request = x
  generalize next : builder.prepare other = y
  have ends := builder.prepare_endAlike alike
  rw [first, next] at ends
  cases ends with
  | failed fault => exact .inl ⟨fault, rfl, rfl⟩
  | ended agree =>
      exact .inr ⟨_, _, rfl, rfl, congrArg Statement.text agree.1, agree.2⟩

/-- A document in place of a word, no values in place of three, a pattern with a quotation mark. -/
theorem prepare_alike_update :
    ∃ prepared second,
      Builder.prepare ⟨⟨"id", by decide⟩⟩ (.update (.text "users")
          [("age", .oneOf [.int 1, .int 2, .int 3]), ("name", .like (.text "a%"))]
          (.object [("role", .text "x")])) = .ok prepared ∧
        Builder.prepare ⟨⟨"id", by decide⟩⟩ (.update (.text "users")
          [("age", .oneOf []), ("name", .like (.text "\x27 OR TRUE"))]
          (.object [("role", .object [("a", .null)])])) = .ok second ∧
        prepared.statement.text = second.statement.text ∧
        prepared.arguments.length = second.arguments.length := by
  have built : ∃ prepared, Builder.prepare ⟨⟨"id", by decide⟩⟩ (.update (.text "users")
      [("age", .oneOf [.int 1, .int 2, .int 3]), ("name", .like (.text "a%"))]
      (.object [("role", .text "x")])) = .ok prepared := ⟨_, rfl⟩
  have alike : Request.Alike
      (.update (.text "users")
        [("age", .oneOf [.int 1, .int 2, .int 3]), ("name", .like (.text "a%"))]
        (.object [("role", .text "x")]))
      (.update (.text "users")
        [("age", .oneOf []), ("name", .like (.text "\x27 OR TRUE"))]
        (.object [("role", .object [("a", .null)])])) := .update rfl rfl
  rcases prepare_alike alike with ⟨fault, refused, _⟩ | made
  · rcases built with ⟨prepared, built⟩
    rw [built] at refused
    cases refused
  · exact made

end Builder

end Sql

end DataGateway
