import DataGateway.Hosted.Adapter
import DataGateway.Proofs.Offline.Selection
import DataGateway.Proofs.Rest.OneRow
import DataGateway.Proofs.Text.Blank
import DataGateway.Proofs.Text.Search
import DataGateway.Relational.Adapter

/-!
# Columns as a text and as a list

A selection is given as a text with commas or as the list of the names in it. The list without a name,
and the one with a star among its names, stand for all columns. A text does so only when it is blank or
a star: behind a comma neither counts, and there alone the two forms come apart.

* `Selection.listed` — the names in a text, given as a list;
* `Selection.HidesAll` — the texts whose list stands for all columns without their saying so;
* `Selection.ofText_eq_iff` — for all other texts, and for no others, the forms mean the same;
* `forms_alike_iff` — then every adapter does the same for both of them, and only then.
-/

namespace DataGateway

open Text

namespace Selection

/-! ## Names in a text -/

/-- The names in a text, given as a list. -/
def listed (s : String) : Value := .list ((split s).map .text)

/-- Does the text have a comma, but no name or a star among its names? As a list these names stand for
all columns. -/
def HidesAll (s : String) : Prop := ',' ∈ s.toList ∧ (split s = [] ∨ "*" ∈ split s)

instance (s : String) : Decidable (HidesAll s) := inferInstanceAs (Decidable (_ ∧ _))

/-- The names in a text have no blanks around them. -/
theorem map_trim_split (s : String) : (split s).map trim = split s := by
  refine List.map_congr_left (fun name member => ?_) |>.trans (List.map_id _)
  rcases List.mem_map.1 (List.mem_filter.1 member).1 with ⟨piece, _, rfl⟩
  exact trim_trim _

theorem ofValue_listed (s : String) : ofValue (listed s) = .ok (ofNames (split s)) := by
  have given := (Given.list (split s)).ofValue
  rwa [map_trim_split] at given

/-- A list stands for all columns, or else for its names, of which there are some. -/
theorem ofNames_eq (names : List String) :
    ofNames names = if names = [] ∨ "*" ∈ names then .all else .columns names := by
  simp [ofNames]

/-- Without a comma there is one name, or only blanks. -/
theorem split_of_not_mem {s : String} (single : ',' ∉ s.toList) :
    split s = if trim s = "" then [] else [trim s] := by
  rw [split, pieces_of_not_mem single, List.map_singleton, String.ofList_toList, List.filter_cons]
  by_cases blank : trim s = "" <;> simp [blank]

/-- With a comma a text is neither blank nor a star. -/
theorem ofText_of_mem {s : String} (comma : ',' ∈ s.toList) : ofText s = .columns (split s) := by
  have kept : ',' ∈ (trim s).toList := mem_trim_of_mem (by decide) comma
  have plain : (trim s == "" || trim s == "*") = false := by
    rw [Bool.or_eq_false_iff, beq_eq_false_iff_ne, beq_eq_false_iff_ne]
    constructor <;> intro same <;> rw [same] at kept <;> exact absurd kept (by decide)
  simp only [ofText, plain, Bool.false_eq_true, if_false]

theorem ofText_of_not_mem {s : String} (single : ',' ∉ s.toList) :
    ofText s = ofNames (split s) := by
  rw [ofNames_eq, split_of_not_mem single, ofText]
  by_cases blank : trim s = ""
  · simp [blank]
  · by_cases star : trim s = "*"
    · simp [star]
    · have other : "*" ≠ trim s := fun same => star same.symm
      simp [blank, star, other, split_of_not_mem single]

/-- Such a text means the names that are written in it, a star among them or none at all. -/
theorem HidesAll.ofText_eq {s : String} (hides : HidesAll s) : ofText s = .columns (split s) :=
  ofText_of_mem hides.1

theorem HidesAll.ofNames_eq_all {s : String} (hides : HidesAll s) : ofNames (split s) = .all := by
  rw [ofNames_eq, if_pos hides.2]

/-- The text and the list of its names mean the same, unless the text hides that it means all columns. -/
theorem ofText_eq_iff (s : String) : ofText s = ofNames (split s) ↔ ¬HidesAll s := by
  constructor
  · intro same hides
    rw [hides.ofText_eq, hides.ofNames_eq_all] at same
    cases same
  · intro plain
    by_cases comma : ',' ∈ s.toList
    · have names : ¬(split s = [] ∨ "*" ∈ split s) := fun all => plain ⟨comma, all⟩
      rw [ofText_of_mem comma, ofNames_eq, if_neg names]
    · exact ofText_of_not_mem comma

example : ["id, name", " * ", "", "*,", "id,,*", " , "].map (fun s => decide (HidesAll s)) =
    [false, false, false, true, true, true] := by
  decide +kernel

end Selection

/-! ## Operations that select columns -/

/-- The operation with another selection, if it has one. -/
def Operation.selecting (columns : Value) : Operation → Operation
  | .select table _ filters => .select table columns filters
  | .selectOne table _ filters => .selectOne table columns filters
  | .query table options => .query table { options with select := columns }
  | operation => operation

section Congruence

variable {a b : Value} (same : Selection.ofValue a = Selection.ofValue b)

include same

namespace Offline

theorem project_congr (row : Value) : project a row = project b row := by
  rw [project, project, same]

theorem projectAll_congr (rows : Table) : projectAll a rows = projectAll b rows := by
  induction rows with
  | nil => rfl
  | cons row rows ih => rw [projectAll, projectAll, project_congr same, ih]

theorem body_selecting (moment : Moment) (operation : Operation) :
    body moment (operation.selecting a) = body moment (operation.selecting b) := by
  cases operation with
  | select table columns filters =>
      have alike : select table a filters = select table b filters := by
        simp only [select, projectAll_congr same]
      exact alike
  | selectOne table columns filters =>
      have alike : selectOne table a filters = selectOne table b filters := by
        simp only [selectOne, project_congr same]
      exact alike
  | query table options =>
      have alike : query table { options with select := a } =
          query table { options with select := b } := by
        simp only [query, projectAll_congr same]
        rfl
      exact alike
  | _ => rfl

end Offline

namespace Sql

theorem selectionOf_congr : selectionOf a = selectionOf b := by
  rw [selectionOf, selectionOf, same]

theorem Builder.select_congr (table : Value) (spec : Spec) (order : Option (Value × Value))
    (limit offset : Value) :
    Builder.select table a spec order limit offset = Builder.select table b spec order limit offset := by
  simp only [Builder.select, selectionOf_congr same]

end Sql

theorem Relational.body_selecting {β : Type} (adapter : Relational.Adapter β) (token : String)
    (operation : Operation) :
    adapter.body token (operation.selecting a) = adapter.body token (operation.selecting b) := by
  cases operation with
  | select table columns filters =>
      have alike : adapter.select table a filters = adapter.select table b filters := by
        simp only [Relational.Adapter.select, Sql.Builder.select_congr same]
      exact alike
  | selectOne table columns filters =>
      have alike : adapter.selectOne table a filters = adapter.selectOne table b filters := by
        simp only [Relational.Adapter.selectOne, Sql.Builder.select_congr same]
      exact alike
  | query table options =>
      have alike : adapter.query table { options with select := a } =
          adapter.query table { options with select := b } := by
        simp only [Relational.Adapter.query, Relational.Adapter.statementOf,
          Sql.Builder.select_congr same]
        rfl
      exact alike
  | _ => rfl

theorem Hosted.selecting_congr (table : Value) (spec : Spec) :
    Hosted.selecting table a spec = Hosted.selecting table b spec := by
  rw [Hosted.selecting, Hosted.selecting, same]

theorem Hosted.body_selecting (adapter : Hosted.Adapter) (operation : Operation) :
    adapter.body (operation.selecting a) = adapter.body (operation.selecting b) := by
  cases operation with
  | select table columns filters =>
      have alike : Hosted.select table a filters = Hosted.select table b filters := by
        simp only [Hosted.select, Hosted.selecting_congr same]
      exact alike
  | selectOne table columns filters =>
      have alike : Hosted.selectOne table a filters = Hosted.selectOne table b filters := by
        simp only [Hosted.selectOne, Hosted.selecting_congr same]
      exact alike
  | query table options =>
      have alike : Hosted.query table { options with select := a } =
          Hosted.query table { options with select := b } := by
        simp only [Hosted.query, Hosted.selecting_congr same]
        rfl
      exact alike
  | _ => rfl

theorem Rest.selectionPairs_congr : Rest.selectionPairs a = Rest.selectionPairs b := by
  rw [Rest.selectionPairs_eq, Rest.selectionPairs_eq, same]

theorem Rest.body_selecting (adapter : Rest.Adapter) (operation : Operation) :
    adapter.body (operation.selecting a) = adapter.body (operation.selecting b) := by
  cases operation with
  | select table columns filters =>
      have alike : adapter.select table a filters = adapter.select table b filters := by
        simp only [Rest.Adapter.select, Rest.selectionPairs_congr same]
      exact alike
  | selectOne table columns filters =>
      have alike : adapter.selectOne table a filters = adapter.selectOne table b filters := by
        simp only [Rest.Adapter.selectOne, Rest.selectionPairs_congr same]
      exact alike
  | query table options =>
      have alike : adapter.query table { options with select := a } =
          adapter.query table { options with select := b } := by
        simp only [Rest.Adapter.query, Rest.selectionPairs_congr same]
        rfl
      exact alike
  | _ => rfl

end Congruence

/-! ## The two forms -/

/-- Do all adapters do the same, in every state, for operations that differ in their selection? -/
structure SelectAlike (a b : Value) : Prop where
  offline : ∀ (moment : Offline.Moment) (operation : Operation),
    Offline.perform moment (operation.selecting a) = Offline.perform moment (operation.selecting b)
  relational : ∀ (β : Type) (adapter : Relational.Adapter β) (token : String) (operation : Operation),
    adapter.perform token (operation.selecting a) = adapter.perform token (operation.selecting b)
  hosted : ∀ (adapter : Hosted.Adapter) (operation : Operation),
    adapter.perform (operation.selecting a) = adapter.perform (operation.selecting b)
  rest : ∀ (adapter : Rest.Adapter) (operation : Operation),
    adapter.perform (operation.selecting a) = adapter.perform (operation.selecting b)

theorem Operation.name_selecting (columns : Value) (operation : Operation) :
    (operation.selecting columns).name = operation.name := by
  cases operation <;> rfl

theorem SelectAlike.of_ofValue_eq {a b : Value} (same : Selection.ofValue a = Selection.ofValue b) :
    SelectAlike a b where
  offline moment operation := by
    rw [Offline.perform, Offline.perform, Offline.body_selecting same, Operation.name_selecting,
      Operation.name_selecting]
  relational β adapter token operation := by
    rw [Relational.Adapter.perform, Relational.Adapter.perform, Relational.body_selecting same,
      Operation.name_selecting, Operation.name_selecting]
  hosted adapter operation := by
    rw [Hosted.Adapter.perform, Hosted.Adapter.perform, Hosted.body_selecting same,
      Operation.name_selecting, Operation.name_selecting]
  rest adapter operation := by
    rw [Rest.Adapter.perform, Rest.Adapter.perform, Rest.body_selecting same,
      Operation.name_selecting, Operation.name_selecting]

namespace Offline

/-- A row that has a value under the empty name alone. -/
def nameless : Value := .object [("", .null)]

/-- A database with this row. -/
def namelessHost : Host Backend :=
  { backend := { tables := [(.ofText "t", [nameless])], store := .empty } }

/-- What is read from it is what is selected of the row. -/
theorem perform_nameless {columns row : Value} (projected : project columns nameless = .ok row) :
    perform {} (.select (.text "t") columns .absent) namelessHost =
      (.ok (.success (.list [row])), namelessHost) := by
  have found : Fields.get? (Fields.set [] (Key.ofText "t") [nameless]) (Key.ofText "t") =
      some [nameless] := Fields.get?_set_self
  have stocked : Tables.rowsOf namelessHost.backend.tables (.ofText "t") = [nameless] :=
    congrArg (Option.getD · []) found
  have read : selected (.text "t") [] namelessHost = (.ok [nameless], namelessHost) := by
    rw [selected_apply, show Key.ofValue (.text "t") = .ok (.ofText "t") from rfl, ok_bind, stocked]
    rfl
  have all : projectAll columns [nameless] = .ok [row] := by
    rw [projectAll, projected]
    rfl
  have parsed : Filters.absent.parse = .ok [] := rfl
  have ran : select (.text "t") columns .absent namelessHost = (.ok (.list [row]), namelessHost) := by
    rw [select, Action.ofExcept_bind_ok parsed, Action.bind_of_ok read, all]
    rfl
  rw [perform, Profile.resolve_apply rfl]
  simp only [body, ran]

theorem project_nameless_all {columns : Value} (all : Selection.ofValue columns = .ok .all) :
    project columns nameless = .ok nameless := by
  rw [project, all]
  rfl

/-- No name is empty, so names select nothing of the row. -/
theorem project_nameless {columns : Value} {names : List String} (clear : "" ∉ names)
    (named : Selection.ofValue columns = .ok (.columns names)) :
    project columns nameless = .ok (.object []) := by
  have nothing : pick nameless names = .ok [] := by
    clear named
    induction names with
    | nil => rfl
    | cons name names ih =>
        rcases List.ne_and_not_mem_of_not_mem_cons clear with ⟨other, clear⟩
        have absent : nameless.holds name = .ok false := by
          have apart : (name == "") = false := beq_false_of_ne other.symm
          simp [nameless, Value.holds, Fields.has, List.lookup_cons, apart]
        rw [pick, absent]
        exact ih clear
  rw [project, named]
  simp only [ok_bind, nothing]
  rfl

end Offline

theorem Selection.not_mem_split (s : String) : "" ∉ split s := by
  simp [split]

/-- The list of the names in a text stands for all columns, or else for these names, of which there are
some. All adapters do the same for the text and for the list, unless the text has a comma and its names
have a star among them or are none at all; then, and only then, the text means just the names that are
written in it while the list means all columns. -/
theorem forms_alike_iff (s : String) :
    Selection.ofValue (Selection.listed s) = .ok (if Selection.split s = [] ∨ "*" ∈ Selection.split s
      then .all else .columns (Selection.split s)) ∧
    (SelectAlike (.text s) (Selection.listed s) ↔ ¬Selection.HidesAll s) ∧
    (Selection.HidesAll s →
      Selection.ofValue (.text s) = .ok (.columns (Selection.split s)) ∧
        Selection.ofValue (Selection.listed s) = .ok .all) := by
  have list := Selection.ofValue_listed s
  have hidden (hides : Selection.HidesAll s) :
      Selection.ofValue (.text s) = .ok (.columns (Selection.split s)) ∧
        Selection.ofValue (Selection.listed s) = .ok .all :=
    ⟨congrArg Except.ok hides.ofText_eq, list.trans (congrArg Except.ok hides.ofNames_eq_all)⟩
  refine ⟨by rw [list, Selection.ofNames_eq], ⟨?_, ?_⟩, hidden⟩
  · intro alike hides
    -- the row without a name shows the difference
    rcases hidden hides with ⟨text, all⟩
    have same := congrFun (alike.offline {} (.select (.text "t") .null .absent)) Offline.namelessHost
    simp only [Operation.selecting, Offline.perform_nameless (Offline.project_nameless_all all),
      Offline.perform_nameless (Offline.project_nameless (Selection.not_mem_split s) text)] at same
    cases same
  · intro plain
    refine .of_ofValue_eq ?_
    rw [list]
    exact congrArg Except.ok ((Selection.ofText_eq_iff s).2 plain)

/-- A star behind a comma is the name of a column, and a comma alone means no column at all; the lists of
the same names mean all columns. -/
theorem hidesAll_star :
    Selection.split "id,*" = ["id", "*"] ∧
      Selection.ofValue (.text "id,*") = .ok (.columns ["id", "*"]) ∧
      Selection.ofValue (.list [.text "id", .text "*"]) = .ok .all ∧
    Selection.split "," = [] ∧ Selection.ofValue (.text ",") = .ok (.columns []) ∧
      Selection.ofValue (.list []) = .ok .all := by
  have star : Selection.ofText "id,*" = .columns ["id", "*"] := by decide +kernel
  have names : Selection.ofNames (["id", "*"].map Text.trim) = .all := by decide +kernel
  have comma : Selection.ofText "," = .columns [] := by decide +kernel
  exact ⟨by decide +kernel, congrArg Except.ok star, congrArg Except.ok names, by decide +kernel,
    congrArg Except.ok comma, rfl⟩

end DataGateway
