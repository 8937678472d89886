import DataGateway.Filter.Spec
import DataGateway.Proofs.Except
import DataGateway.Proofs.Value.Print
import Mathlib.Data.List.Forall2

/-!
# The wire form of filters

Filters are read entry by entry, and every entry by itself: its key has to be a column, and what stands
under it has to be of the grammar. Nothing else is looked at, and the first entry that is not so ends
the reading.

* `Filters.Entry.Says` — the grammar: the condition that an entry says;
* `Filters.Entry.Refuses` — why an entry says nothing;
* `Filters.parse_columns_eq_ok_iff`, `parse_columns_eq_error_iff` — what filters say, and which entry
  stops them;
* `Filters.parse_grammar` — both together, and that conditions that have been read are read again.
-/

namespace DataGateway

open Filters

namespace Condition

/-! ## Operators -/

/-- The operand of a condition with a single one. -/
def operand? : Condition → Option Value
  | eq v | neq v | gt v | gte v | lt v | lte v | like v | ilike v => some v
  | _ => none

/-- The names of operators in requests. -/
def operatorNames : List String :=
  ["eq", "neq", "gt", "gte", "lt", "lte", "like", "ilike", "in"]

/-- A condition is made from its operator and its operand, and from no others. -/
theorem ofOperator?_eq_some_iff {operator : String} {operand : Value} {condition : Condition} :
    ofOperator? operator operand = some condition ↔
      condition.operator = operator ∧ condition.operand? = some operand := by
  constructor
  · intro made
    unfold ofOperator? at made
    split at made <;> cases made <;> exact ⟨rfl, rfl⟩
  · rintro ⟨rfl, single⟩
    cases condition <;> cases single <;> rfl

theorem ofOperator?_eq_none_iff {operator : String} (other : operator ≠ "in") {operand : Value} :
    ofOperator? operator operand = none ↔ operator ∉ operatorNames := by
  constructor
  · intro unmade member
    simp only [operatorNames, List.mem_cons, List.not_mem_nil, or_false] at member
    rcases member with rfl | rfl | rfl | rfl | rfl | rfl | rfl | rfl | rfl
    all_goals first | exact other rfl | cases unmade
  · intro unknown
    unfold ofOperator?
    split
    all_goals first | rfl | exact absurd (by decide) unknown

section Operators

variable {column operator : String} {operand : Value}

theorem operator_ne_in {condition : Condition}
    (single : condition.operand? = some operand) : condition.operator ≠ "in" := by
  cases condition <;> cases single <;> simp [operator]

theorem ofOperator_in : ofOperator column "in" operand =
    (match operand.items? with
    | some items => .ok (oneOf items)
    | none => .error (.refused (.listExpected column))) := rfl

theorem ofOperator_of_some (other : operator ≠ "in") {condition : Condition}
    (made : ofOperator? operator operand = some condition) :
    ofOperator column operator operand = .ok condition := by
  have apart : ¬(operator == "in") = true := by simpa using other
  simp only [ofOperator, if_neg apart, made]

theorem ofOperator_of_none (other : operator ≠ "in") (unmade : ofOperator? operator operand = none) :
    ofOperator column operator operand = .error (.refused (.unknownOperator operator column)) := by
  have apart : ¬(operator == "in") = true := by simpa using other
  simp only [ofOperator, if_neg apart, unmade]

/-- What an operator with its operand says, and why it says nothing. -/
theorem ofOperator_cases (column operator : String) (operand : Value) :
    (∃ condition, ofOperator column operator operand = .ok condition ∧
      condition.operator = operator ∧ condition.operand? = some operand) ∨
    (∃ items, operator = "in" ∧ operand.items? = some items ∧
      ofOperator column operator operand = .ok (oneOf items)) ∨
    (operator = "in" ∧ operand.items? = none ∧
      ofOperator column operator operand = .error (.refused (.listExpected column))) ∨
    (operator ∉ operatorNames ∧
      ofOperator column operator operand = .error (.refused (.unknownOperator operator column))) := by
  by_cases within : operator = "in"
  · subst within
    rw [ofOperator_in]
    cases found : operand.items? with
    | some items => exact .inr (.inl ⟨items, rfl, rfl, rfl⟩)
    | none => exact .inr (.inr (.inl ⟨rfl, rfl, rfl⟩))
  · cases made : ofOperator? operator operand with
    | some condition =>
        exact .inl ⟨condition, ofOperator_of_some within made, ofOperator?_eq_some_iff.1 made⟩
    | none =>
        have unknown := (ofOperator?_eq_none_iff within).1 made
        exact .inr (.inr (.inr ⟨unknown, ofOperator_of_none within made⟩))

end Operators

/-- A condition is itself again when it stands in a value. -/
theorem ofMembers_members (condition : Condition) :
    ofMembers condition.operator condition.members = condition := by
  cases condition <;> rfl

end Condition

theorem Key.eq_ofText_iff {key : Key} {s : String} : key = .ofText s ↔ key.value = .text s := by
  constructor
  · rintro rfl
    rfl
  · intro text
    rcases key with ⟨v, _⟩
    subst text
    rfl

namespace Filters

/-! ## The grammar -/

/-- Is a value neither null, nor a list, nor an object, nor a condition? -/
def IsScalar : Value → Prop
  | .null | .list _ | .tuple _ | .object _ | .entity (.condition _) _ _ => False
  | _ => True

/-- The condition that an entry says. -/
inductive Entry.Says : Entry → Condition → Prop
  | built (condition : Condition) : Says (.built condition) condition
  | held (operator : String) (mark : Nat) (members : Record) :
      Says (.wire (.entity (.condition operator) mark members)) (.ofMembers operator members)
  | null : Says (.wire .null) .isNull
  | items {v : Value} {items : List Value} : v.items? = some items → Says (.wire v) (.oneOf items)
  | operator {condition : Condition} {operand : Value} : condition.operand? = some operand →
      Says (.wire (.object [(condition.operator, operand)])) condition
  | within {operand : Value} {items : List Value} : operand.items? = some items →
      Says (.wire (.object [("in", operand)])) (.oneOf items)
  | scalar {v : Value} : IsScalar v → Says (.wire v) (.eq v)

/-- Why an entry under a column says nothing. -/
inductive Entry.Refuses (column : String) : Entry → Refusal → Prop
  | count {fields : Record} : fields.length ≠ 1 →
      Refuses column (.wire (.object fields)) (.operatorCount column (Condition.sortedNames fields))
  | unknown {operator : String} {operand : Value} : operator ∉ Condition.operatorNames →
      Refuses column (.wire (.object [(operator, operand)])) (.unknownOperator operator column)
  | noList {operand : Value} : operand.items? = none →
      Refuses column (.wire (.object [("in", operand)])) (.listExpected column)

/-- Does an entry under a key say a condition on a column? -/
def Reads (given : Key × Entry) (said : String × Condition) : Prop :=
  given.1 = .ofText said.1 ∧ said.1 ≠ "" ∧ given.2.Says said.2

/-- Why an entry under a key says nothing: the key is no column, or the entry is refused there. A key
without a text cannot be named in a refusal. -/
inductive Stops : Key × Entry → Fault → Prop
  | column {key : Key} {entry : Entry} : (∀ column, column ≠ "" → key ≠ .ofText column) →
      key.value.isPrintable = true → Stops (key, entry) (.refused (.filterColumn key.value.literal))
  | unprintable {key : Key} {entry : Entry} : key.value.isPrintable = false →
      Stops (key, entry) (.misuse .wholeUnwritable)
  | entry {column : String} {entry : Entry} {refusal : Refusal} : column ≠ "" →
      entry.Refuses column refusal → Stops (.ofText column, entry) (.refused refusal)

/-! ## Entries -/

/-- A key that is no column is refused, with the key in the message. -/
theorem columnOf_eq {key : Key} (none : ∀ column, column ≠ "" → key ≠ .ofText column) :
    columnOf key = key.value.refuse .filterColumn := by
  unfold columnOf
  split
  · rename_i s text
    have empty : s = "" := by
      by_contra some
      exact none s some (Key.eq_ofText_iff.2 text)
    rw [empty, text, empty, Value.refuse_eq]
    rfl
  · rfl

theorem columnOf_eq_ok_iff {key : Key} {column : String} :
    columnOf key = .ok column ↔ key = .ofText column ∧ column ≠ "" := by
  rw [Key.eq_ofText_iff]
  unfold columnOf
  split
  · rename_i s text
    rw [text, Value.text.injEq]
    split
    · rename_i empty
      rw [beq_iff_eq] at empty
      simp [empty]
    · rename_i some
      rw [beq_iff_eq] at some
      constructor
      · rintro ⟨⟩
        exact ⟨rfl, some⟩
      · rintro ⟨rfl, _⟩
        rfl
  · rename_i other
    rw [Value.refuse_eq]
    constructor
    · nofun
    · rintro ⟨text, _⟩
      exact absurd text (other column)

/-- A key is a column, or it stops every entry under it. -/
theorem columnOf_cases (key : Key) (entry : Entry) :
    (∃ column, columnOf key = .ok column ∧ key = .ofText column ∧ column ≠ "") ∨
      ∃ fault, columnOf key = .error fault ∧ Stops (key, entry) fault := by
  by_cases named : ∃ column, column ≠ "" ∧ key = .ofText column
  · rcases named with ⟨column, some, named⟩
    exact .inl ⟨column, columnOf_eq_ok_iff.2 ⟨named, some⟩, named, some⟩
  · have none : ∀ column, column ≠ "" → key ≠ .ofText column :=
      fun column some same => named ⟨column, some, same⟩
    rw [columnOf_eq none, Value.refuse_eq]
    cases printable : key.value.isPrintable with
    | true => exact .inr ⟨_, rfl, .column none printable⟩
    | false => exact .inr ⟨_, rfl, .unprintable printable⟩

theorem ofWire_object {column : String} {fields : Record} (many : fields.length ≠ 1) :
    Condition.ofWire column (.object fields) =
      .error (.refused (.operatorCount column (Condition.sortedNames fields))) := by
  rcases fields with _ | ⟨_, _ | ⟨_, _⟩⟩
  · rfl
  · exact absurd rfl many
  · rfl

/-- An entry says a condition on every column, or it is refused for a reason. -/
theorem condition_cases (entry : Entry) (column : String) :
    (∃ condition, entry.condition column = .ok condition ∧ entry.Says condition) ∨
    ∃ refusal, entry.condition column = .error (.refused refusal) ∧ entry.Refuses column refusal := by
  cases entry with
  | built condition => exact .inl ⟨condition, rfl, .built condition⟩
  | wire v =>
      cases v with
      | null => exact .inl ⟨_, rfl, .null⟩
      | list items => exact .inl ⟨_, rfl, .items rfl⟩
      | tuple items => exact .inl ⟨_, rfl, .items rfl⟩
      | object fields =>
          -- an object is read by its only field, or not at all
          by_cases one : fields.length = 1
          · rcases List.length_eq_one_iff.1 one with ⟨⟨operator, operand⟩, rfl⟩
            rcases Condition.ofOperator_cases column operator operand with
              ⟨condition, read, rfl, single⟩ | ⟨items, rfl, found, read⟩ | ⟨rfl, none, read⟩ |
                ⟨unknown, read⟩
            · exact .inl ⟨condition, read, .operator single⟩
            · exact .inl ⟨_, read, .within found⟩
            · exact .inr ⟨_, read, .noList none⟩
            · exact .inr ⟨_, read, .unknown unknown⟩
          · exact .inr ⟨_, ofWire_object one, .count one⟩
      | entity kind mark members =>
          cases kind with
          | condition operator => exact .inl ⟨_, rfl, .held operator mark members⟩
          | _ => exact .inl ⟨_, rfl, .scalar trivial⟩
      | _ => exact .inl ⟨_, rfl, .scalar trivial⟩

theorem Entry.Says.condition_eq {entry : Entry} {condition : Condition}
    (said : entry.Says condition) (column : String) : entry.condition column = .ok condition := by
  cases said with
  | built condition => rfl
  | held operator mark members => rfl
  | null => rfl
  | @items v items found => cases v <;> cases found <;> rfl
  | @operator condition operand single =>
      have made := Condition.ofOperator?_eq_some_iff.2 ⟨rfl, single⟩
      exact Condition.ofOperator_of_some (Condition.operator_ne_in single) made
  | @within operand items found =>
      calc
        Entry.condition column (.wire (.object [("in", operand)]))
            = Condition.ofOperator column "in" operand := rfl
        _ = .ok (.oneOf items) := by rw [Condition.ofOperator_in, found]
  | @scalar v plain =>
      cases v with
      | entity kind mark members =>
          cases kind with
          | condition operator => exact plain.elim
          | _ => rfl
      | null | list _ | tuple _ | object _ => exact plain.elim
      | _ => rfl

theorem Entry.Refuses.condition_eq {entry : Entry} {column : String} {refusal : Refusal}
    (refused : entry.Refuses column refusal) :
    entry.condition column = .error (.refused refusal) := by
  cases refused with
  | count many => exact ofWire_object many
  | @unknown operator operand unknown =>
      have other : operator ≠ "in" := by
        rintro rfl
        exact unknown (by decide)
      exact Condition.ofOperator_of_none other ((Condition.ofOperator?_eq_none_iff other).2 unknown)
  | @noList operand none =>
      calc
        Entry.condition column (.wire (.object [("in", operand)]))
            = Condition.ofOperator column "in" operand := rfl
        _ = .error (.refused (.listExpected column)) := by rw [Condition.ofOperator_in, none]

/-! ## Filters -/

variable {given : Key × Entry} {entries : List (Key × Entry)} {spec : Spec}

/-- What reading makes of a single entry. -/
def readOne (given : Key × Entry) : Except Fault (String × Condition) := do
  let column ← columnOf given.1
  let condition ← given.2.condition column
  return (column, condition)

theorem parseEntries_cons : parseEntries (given :: entries) =
    (do return (← readOne given) :: (← parseEntries entries)) := by
  rcases given with ⟨key, entry⟩
  rw [parseEntries, readOne]
  cases columnOf key with
  | error fault => rfl
  | ok column => cases h : entry.condition column <;> simp [h, bind, Except.bind, pure, Except.pure]

/-- An entry is read as what it says, or it stops the reading. -/
theorem readOne_cases (given : Key × Entry) :
    (∃ said, readOne given = .ok said ∧ Reads given said) ∨
      ∃ fault, readOne given = .error fault ∧ Stops given fault := by
  rcases given with ⟨key, entry⟩
  rcases columnOf_cases key entry with ⟨column, named, rfl, some⟩ | ⟨fault, named, stops⟩
  · rcases condition_cases entry column with ⟨condition, read, said⟩ | ⟨refusal, read, refused⟩
    · refine .inl ⟨(column, condition), ?_, rfl, some, said⟩
      rw [readOne, named, ok_bind, read]
      rfl
    · refine .inr ⟨_, ?_, .entry some refused⟩
      rw [readOne, named, ok_bind, read]
      rfl
  · refine .inr ⟨fault, ?_, stops⟩
    rw [readOne, named]
    rfl

theorem Reads.readOne_eq {said : String × Condition} (reads : Reads given said) :
    readOne given = .ok said := by
  rcases given with ⟨key, entry⟩
  rcases said with ⟨column, condition⟩
  rcases reads with ⟨named, some, meant⟩
  rw [readOne, columnOf_eq_ok_iff.2 ⟨named, some⟩, ok_bind, meant.condition_eq column]
  rfl

/-- A key without a text is no column. -/
theorem ne_ofText_of_not_printable {key : Key} (unprintable : key.value.isPrintable = false) :
    ∀ column, column ≠ "" → key ≠ .ofText column := by
  rintro column _ rfl
  cases unprintable

theorem Stops.readOne_eq {fault : Fault} (stops : Stops given fault) :
    readOne given = .error fault := by
  cases stops with
  | column none printable =>
      rw [readOne, columnOf_eq none, Value.refuse_eq, printable]
      rfl
  | unprintable unprintable =>
      rw [readOne, columnOf_eq (ne_ofText_of_not_printable unprintable), Value.refuse_eq, unprintable]
      rfl
  | entry some refused =>
      rw [readOne, columnOf_eq_ok_iff.2 ⟨rfl, some⟩, ok_bind, refused.condition_eq]
      rfl

/-- Entries are read as what they say, one by one, or the first one that says nothing stops the
reading. -/
theorem parseEntries_cases (entries : List (Key × Entry)) :
    (∃ spec, parseEntries entries = .ok spec ∧ List.Forall₂ Reads entries spec) ∨
      ∃ before given after fault, entries = before ++ given :: after ∧
        (∀ earlier ∈ before, ∃ said, Reads earlier said) ∧ Stops given fault ∧
        parseEntries entries = .error fault := by
  induction entries with
  | nil => exact .inl ⟨[], rfl, .nil⟩
  | cons given rest ih =>
      rw [parseEntries_cons]
      rcases readOne_cases given with ⟨said, read, reads⟩ | ⟨fault, read, stops⟩
      · rcases ih with ⟨spec, parsed, all⟩ |
          ⟨before, stopper, after, fault, rfl, earlier, stops, parsed⟩
        · refine .inl ⟨said :: spec, ?_, .cons reads all⟩
          rw [read, ok_bind, parsed]
          rfl
        · refine .inr ⟨given :: before, stopper, after, fault, rfl, ?_, stops, ?_⟩
          · exact List.forall_mem_cons.2 ⟨⟨said, reads⟩, earlier⟩
          · rw [read, ok_bind, parsed]
            rfl
      · refine .inr ⟨[], given, rest, fault, rfl, by simp, stops, ?_⟩
        rw [read]
        rfl

theorem parseEntries_of_reads (all : List.Forall₂ Reads entries spec) :
    parseEntries entries = .ok spec := by
  induction all with
  | nil => rfl
  | cons reads _ ih =>
      rw [parseEntries_cons, reads.readOne_eq, ok_bind, ih]
      rfl

theorem parseEntries_of_stops {before after : List (Key × Entry)} {fault : Fault}
    (earlier : ∀ earlier ∈ before, ∃ said, Reads earlier said) (stops : Stops given fault) :
    parseEntries (before ++ given :: after) = .error fault := by
  induction before with
  | nil =>
      rw [List.nil_append, parseEntries_cons, stops.readOne_eq]
      rfl
  | cons first rest ih =>
      rcases earlier first (List.mem_cons_self ..) with ⟨said, reads⟩
      have others := ih fun given member => earlier given (List.mem_cons_of_mem _ member)
      rw [List.cons_append, parseEntries_cons, reads.readOne_eq, ok_bind, others]
      rfl

/-- Entries say a specification if and only if it is what they are read as. -/
theorem parse_columns_eq_ok_iff :
    (columns entries).parse = .ok spec ↔ List.Forall₂ Reads entries spec := by
  constructor
  · intro parsed
    rcases parseEntries_cases entries with ⟨spec', read, all⟩ | ⟨_, _, _, _, _, _, _, read⟩
    · obtain rfl : spec' = spec := Except.ok.inj (read.symm.trans parsed)
      exact all
    · nomatch read.symm.trans parsed
  · exact parseEntries_of_reads

/-- Reading fails if and only if an entry stops it, and then with the reason of the first that does. -/
theorem parse_columns_eq_error_iff {fault : Fault} :
    (columns entries).parse = .error fault ↔
      ∃ before given after, entries = before ++ given :: after ∧
        (∀ earlier ∈ before, ∃ said, Reads earlier said) ∧ Stops given fault := by
  constructor
  · intro failed
    rcases parseEntries_cases entries with
      ⟨_, read, _⟩ | ⟨before, given, after, stopping, split, earlier, stops, read⟩
    · nomatch read.symm.trans failed
    · obtain rfl : stopping = fault := Except.error.inj (read.symm.trans failed)
      exact ⟨before, given, after, split, earlier, stops⟩
  · rintro ⟨before, given, after, rfl, earlier, stops⟩
    exact parseEntries_of_stops earlier stops

/-! ## Reading again -/

/-- Filters that give a specification, its conditions as the entries that are made of them. -/
def ofSpec (make : Condition → Entry) (spec : Spec) : Filters :=
  .columns (spec.map fun said => (.ofText said.1, make said.2))

/-- A condition that stands in a value says itself. -/
theorem Entry.says_toValue (condition : Condition) (mark : Nat) :
    Entry.Says (.wire (condition.toValue mark)) condition := by
  have held := Entry.Says.held condition.operator mark condition.members
  rwa [Condition.ofMembers_members] at held

/-- Whatever filters are read from, the columns of the specification are columns. -/
theorem column_ne_empty {filters : Filters} (parsed : filters.parse = .ok spec) :
    ∀ said ∈ spec, said.1 ≠ "" := by
  have of_entries (entries : List (Key × Entry)) (parsed : (columns entries).parse = .ok spec) :
      ∀ said ∈ spec, said.1 ≠ "" := by
    intro said member
    rcases List.mem_iff_get.1 member with ⟨n, rfl⟩
    have all := parse_columns_eq_ok_iff.1 parsed
    exact (all.get (all.length_eq.symm ▸ n.isLt) n.isLt).2.1
  cases filters with
  | columns entries => exact of_entries entries parsed
  | other v =>
      cases v with
      | object fields => exact of_entries _ parsed
      | _ =>
          simp only [parse] at parsed
          split at parsed <;> cases parsed
          simp

theorem parse_ofSpec {filters : Filters} {make : Condition → Entry}
    (faithful : ∀ condition, (make condition).Says condition) (parsed : filters.parse = .ok spec) :
    (ofSpec make spec).parse = .ok spec := by
  refine parse_columns_eq_ok_iff.2 (List.forall₂_map_left_iff.2 (List.forall₂_same.2 ?_))
  intro said member
  exact ⟨rfl, column_ne_empty parsed said member, faithful said.2⟩

/-- Filters are read as exactly what their entries say, under the same columns in the same order; they
are refused exactly when an entry says nothing, for the reason of the first such entry; and what has
been read is read again as itself, with its conditions as they are or in values. -/
theorem parse_grammar :
    (∀ entries, (∃ spec, (columns entries).parse = .ok spec) ↔
      ∀ given ∈ entries, ∃ said, Reads given said) ∧
    (∀ entries spec, (columns entries).parse = .ok spec ↔ List.Forall₂ Reads entries spec) ∧
    (∀ entries fault, (columns entries).parse = .error fault ↔
      ∃ before given after, entries = before ++ given :: after ∧
        (∀ earlier ∈ before, ∃ said, Reads earlier said) ∧ Stops given fault) ∧
    ∀ (filters : Filters) spec, filters.parse = .ok spec →
      (ofSpec .built spec).parse = .ok spec ∧
        ∀ mark, (ofSpec (fun condition => .wire (condition.toValue mark)) spec).parse = .ok spec := by
  refine ⟨fun entries => ⟨?_, ?_⟩, fun entries spec => parse_columns_eq_ok_iff,
    fun entries fault => parse_columns_eq_error_iff, ?_⟩
  · rintro ⟨spec, parsed⟩ given member
    rcases List.mem_iff_get.1 member with ⟨n, rfl⟩
    have all := parse_columns_eq_ok_iff.1 parsed
    exact ⟨_, all.get n.isLt (all.length_eq ▸ n.isLt)⟩
  · intro sayings
    rcases parseEntries_cases entries with ⟨spec, read, _⟩ | ⟨_, given, _, _, split, _, stops, _⟩
    · exact ⟨spec, read⟩
    · -- the entry that stops the reading would be read as something
      rcases sayings given (by simp [split]) with ⟨said, reads⟩
      nomatch reads.readOne_eq.symm.trans stops.readOne_eq
  · intro filters spec parsed
    exact ⟨parse_ofSpec .built parsed,
      fun mark => parse_ofSpec (Entry.says_toValue · mark) parsed⟩

-- the empty column further on is not looked at any more
example : (columns [(.ofText "a", .wire .null), (.ofText "b", .wire (.object [("near", .int 1)])),
    (.ofText "", .wire .null)]).parse = .error (.refused (.unknownOperator "near" "b")) := rfl

end Filters

end DataGateway
