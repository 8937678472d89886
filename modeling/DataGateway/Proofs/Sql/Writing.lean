import DataGateway.Proofs.Sql.Meaning

/-!
# Reading mutations back

The text of a statement that adds, changes or deletes rows determines what the statement says: a blank
stands between two words, a comma ends the word of an item that others follow, and the items of a list
in parentheses begin and end in words with a parenthesis.

* `readInsert?`, `readUpdate?`, `readDelete?` — what is read from the text of a statement;
* `readInsert?_text`, `readUpdate?_text`, `readDelete?_text` — that it is what was written;
* `argumentFor?`, `Argument.Carries` — the argument of a placeholder, and the value in it.
-/

namespace DataGateway.Sql

open Text

/-! ## Words that are expected -/

/-- The words behind those that are expected at the beginning. -/
def expect? : List String → List (List Char) → Option (List (List Char))
  | [], words => some words
  | head :: heads, word :: words => if word = head.toList then expect? heads words else none
  | _ :: _, [] => none

theorem expect?_append (heads : List String) (rest : List (List Char)) :
    expect? heads (heads.map String.toList ++ rest) = some rest := by
  induction heads with
  | nil => rfl
  | cons head heads ih => rw [List.map_cons, List.cons_append, expect?, if_pos rfl, ih]

/-- The words by which a statement asks for the rows that it wrote. -/
def returning : List (List Char) := ["RETURNING", "*"].map String.toList

/-- The words before those that ask for the rows. -/
def unreturned? (words : List (List Char)) : Option (List (List Char)) :=
  if words.drop (words.length - 2) = returning then some (words.take (words.length - 2)) else none

theorem unreturned?_append (words : List (List Char)) :
    unreturned? (words ++ returning) = some words := by
  have length : (words ++ returning).length - 2 = words.length := by simp [returning]
  rw [unreturned?, length, List.drop_left, if_pos rfl, List.take_left]

/-- The identifier that a word is. -/
def readName? (word : List Char) : Option Identifier := (Identifier.ofName (String.ofList word)).toOption

theorem readName?_text (name : Identifier) : readName? name.text.toList = some name := by
  rw [readName?, String.ofList_toList, Identifier.ofName_text]
  rfl

theorem mapM_map_eq_some {α β γ : Type} {read : β → Option γ} {write : α → β} {value : α → γ}
    {as : List α} (back : ∀ a ∈ as, read (write a) = some (value a)) :
    (as.map write).mapM read = some (as.map value) := by
  induction as with
  | nil => rfl
  | cons a as ih =>
      rcases List.forall_mem_cons.1 back with ⟨first, others⟩
      rw [List.map_cons, List.mapM_cons, first, ih others]
      rfl

/-- The words before a blank and those behind it are apart. -/
theorem words_append (s rest : List Char) : words (s ++ ' ' :: rest) = words s ++ words rest :=
  pieces_append s rest

/-! ## Lists in parentheses -/

/-- The words of items, with a comma behind each but the last, which has an ending. -/
def listWords (ending : List Char) : List (List Char) → List (List Char)
  | [] => []
  | [item] => [item ++ ending]
  | item :: next :: rest => (item ++ [',']) :: listWords ending (next :: rest)

/-- The lists of items whose words stand at the beginning, and the words behind them. The first item of
each list has its parenthesis still before it. -/
def closedLists? : List (List Char) → Option (List (List (List Char)) × List (List Char))
  | [] => none
  | word :: rest =>
    if word.getLast? = some ')' then some ([[word.dropLast]], rest)
    else if word.getLast? = some ',' then do
      let (lists, behind) ← closedLists? rest
      -- a comma stands behind a whole list too
      if word.dropLast.getLast? = some ')' then return ([word.dropLast.dropLast] :: lists, behind)
      match lists with
      | list :: lists => return ((word.dropLast :: list) :: lists, behind)
      | [] => none
    else none

/-- The items of a list without the parenthesis before them. -/
def opened? : List (List Char) → Option (List (List Char))
  | ('(' :: first) :: rest => some (first :: rest)
  | _ => none

/-- The items of lists in parentheses at the beginning of words, and the words behind them. -/
def readLists? (words : List (List Char)) :
    Option (List (List (List Char)) × List (List Char)) := do
  let (lists, behind) ← closedLists? words
  return (← lists.mapM opened?, behind)

/-- The text of items in parentheses. -/
def listText (items : List String) : String := "(" ++ commas items ++ ")"

/-- Can the text be an item of a list? -/
structure IsItem (item : String) : Prop where
  unbroken : ' ' ∉ item.toList
  unclosed : ')' ∉ item.toList
  single : ',' ∉ item.toList

/-- Are texts the items of a list, which has some? -/
structure IsList (list : List String) : Prop where
  some : list ≠ []
  items : ∀ item ∈ list, IsItem item

theorem Identifier.isItem (name : Identifier) : IsItem name.text :=
  ⟨name.not_mem_text rfl, name.not_mem_text rfl, name.not_mem_text rfl⟩

theorem isItem_placeholder (n : Nat) : IsItem (placeholderText n) := by
  have digits {c : Char} (other : Numeral.isDigit c = false) (apart : c ≠ '$') :
      c ∉ (placeholderText n).toList := by
    rw [toList_placeholderText]
    intro member
    rcases List.mem_cons.1 member with rfl | member
    · exact apart rfl
    · rw [Numeral.isDigit_of_mem_toDigits member] at other
      cases other
  exact ⟨digits rfl (by decide), digits rfl (by decide), digits rfl (by decide)⟩

theorem toList_commas_cons (item next : String) (rest : List String) :
    (commas (item :: next :: rest)).toList =
      item.toList ++ [','] ++ ' ' :: (commas (next :: rest)).toList := by
  simp [commas, String.intercalate_cons_cons]

/-- The words of items with commas between them. -/
theorem words_commas {item : String} {rest : List String}
    (unbroken : ∀ s ∈ item :: rest, ' ' ∉ s.toList) {ending : List Char} (blankless : ' ' ∉ ending) :
    words ((commas (item :: rest)).toList ++ ending) =
      listWords ending ((item :: rest).map String.toList) := by
  induction rest generalizing item with
  | nil =>
      have first := unbroken item (List.mem_cons_self ..)
      have whole : ' ' ∉ item.toList ++ ending := by simp [first, blankless]
      simpa [commas, listWords] using words_of_not_mem whole
  | cons next rest ih =>
      have first := unbroken item (List.mem_cons_self ..)
      have whole : ' ' ∉ item.toList ++ [','] := by simp [first]
      have others := ih fun s member => unbroken s (List.mem_cons_of_mem _ member)
      rw [toList_commas_cons, List.append_assoc, List.cons_append, words_append,
        words_of_not_mem whole, others]
      rfl

theorem getLast?_of_not_mem {c : Char} {item : List Char} (clear : c ∉ item) :
    item.getLast? ≠ some c :=
  fun last => clear (List.mem_of_getLast? last)

/-- A list is read up to the word that ends in its parenthesis. -/
theorem closedLists?_last {items : List (List Char)} (some : items ≠ [])
    (clear : ∀ item ∈ items, ')' ∉ item) (rest : List (List Char)) :
    closedLists? (listWords [')'] items ++ rest) = .some ([items], rest) := by
  induction items with
  | nil => exact absurd rfl some
  | cons item items ih =>
      rcases List.forall_mem_cons.1 clear with ⟨first, others⟩
      cases items with
      | nil => simp [listWords, closedLists?]
      | cons next items =>
          -- the word of an item that is not the last ends in a comma
          have ended := getLast?_of_not_mem first
          have behind := ih nofun others
          simp [listWords, closedLists?, ended, behind]

/-- One with a comma behind it is followed by others. -/
theorem closedLists?_more {items : List (List Char)} (some : items ≠ [])
    (clear : ∀ item ∈ items, ')' ∉ item) {rest behind : List (List Char)}
    {lists : List (List (List Char))} (others : closedLists? rest = .some (lists, behind)) :
    closedLists? (listWords [')', ','] items ++ rest) = .some (items :: lists, behind) := by
  induction items with
  | nil => exact absurd rfl some
  | cons item items ih =>
      rcases List.forall_mem_cons.1 clear with ⟨first, clear⟩
      cases items with
      | nil =>
          -- behind the parenthesis the comma belongs to the whole list
          have comma : (item ++ [')', ',']).getLast? = .some ',' := by simp
          have bare : (item ++ [')', ',']).dropLast = item ++ [')'] := by
            rw [List.dropLast_append_of_ne_nil (by simp)]
            rfl
          simp [listWords, closedLists?, comma, bare, others]
      | cons next items =>
          have ended := getLast?_of_not_mem first
          have behind := ih nofun clear
          simp [listWords, closedLists?, ended, behind]

/-- The items of a list with its first parenthesis, which the reader takes away. -/
def opening : List String → List (List Char)
  | [] => []
  | item :: rest => ('(' :: item.toList) :: rest.map String.toList

theorem IsList.opening_ne_nil {list : List String} (isList : IsList list) : opening list ≠ [] := by
  rcases List.exists_cons_of_ne_nil isList.some with ⟨item, rest, rfl⟩
  exact List.cons_ne_nil _ _

theorem IsList.not_mem_opening {list : List String} (isList : IsList list) :
    ∀ word ∈ opening list, ')' ∉ word := by
  rcases List.exists_cons_of_ne_nil isList.some with ⟨item, rest, rfl⟩
  rcases List.forall_mem_cons.1 isList.items with ⟨first, others⟩
  have closing : ')' ∉ '(' :: item.toList := by simpa using first.unclosed
  refine List.forall_mem_cons.2 ⟨closing, fun word member => ?_⟩
  rcases List.mem_map.1 member with ⟨s, own, rfl⟩
  exact (others s own).unclosed

theorem words_listText {list : List String} (isList : IsList list) (ending : List Char)
    (blankless : ' ' ∉ ending) :
    words ((listText list).toList ++ ending) = listWords (')' :: ending) (opening list) := by
  rcases List.exists_cons_of_ne_nil isList.some with ⟨item, rest, rfl⟩
  rcases List.forall_mem_cons.1 isList.items with ⟨first, others⟩
  have unbroken : ∀ s ∈ ("(" ++ item) :: rest, ' ' ∉ s.toList :=
    List.forall_mem_cons.2 ⟨by simpa using first.unbroken, fun s own => (others s own).unbroken⟩
  have text : (listText (item :: rest)).toList ++ ending =
      (commas (("(" ++ item) :: rest)).toList ++ ')' :: ending := by
    cases rest with
    | nil => simp [listText, commas]
    | cons next rest => simp [listText, toList_commas_cons]
  -- the parenthesis before the list is part of its first item
  rw [text, words_commas unbroken (by simpa using blankless)]
  simp [opening]

theorem closedLists?_words {list : List String} {lists : List (List String)}
    (isList : ∀ l ∈ list :: lists, IsList l) (rest : List (List Char)) :
    closedLists? (words (commas ((list :: lists).map listText)).toList ++ rest) =
      some ((list :: lists).map opening, rest) := by
  have first : IsList list := isList list (List.mem_cons_self ..)
  induction lists generalizing list with
  | nil =>
      have text := words_listText first [] List.not_mem_nil
      rw [List.append_nil] at text
      simp only [List.map_cons, List.map_nil, commas, String.intercalate_singleton, text]
      exact closedLists?_last first.opening_ne_nil first.not_mem_opening rest
  | cons next lists ih =>
      have later := fun l member => isList l (List.mem_cons_of_mem list member)
      have others := ih later (later next (List.mem_cons_self ..))
      have text := words_listText first [','] (by decide)
      rw [List.map_cons, List.map_cons, toList_commas_cons, words_append, text, List.append_assoc]
      exact closedLists?_more first.opening_ne_nil first.not_mem_opening others

/-- Lists in parentheses, with commas between them, are read back. -/
theorem readLists?_words (lists : List (List String)) (some : lists ≠ [])
    (isList : ∀ l ∈ lists, IsList l) (rest : List (List Char)) :
    readLists? (words (commas (lists.map listText)).toList ++ rest) =
      .some (lists.map fun l => l.map String.toList, rest) := by
  have back : (lists.map opening).mapM opened? = .some (lists.map fun l => l.map String.toList) := by
    apply mapM_map_eq_some
    intro list member
    rcases List.exists_cons_of_ne_nil (isList list member).some with ⟨item, others, rfl⟩
    rfl
  rcases List.exists_cons_of_ne_nil some with ⟨list, others, rfl⟩
  rw [readLists?, closedLists?_words isList]
  simp only [Option.bind_eq_bind, Option.bind_some, back]
  rfl

/-! ## Assignments -/

/-- The names at the beginning of words with what is assigned to them, and the words behind. -/
def readAssignments? {α : Type} (read : List Char → Option α) :
    List (List Char) → Option (List (Identifier × α) × List (List Char))
  | column :: sign :: value :: rest => do
    guard (sign = "=".toList)
    let name ← readName? column
    if value.getLast? = some ',' then
      let (others, behind) ← readAssignments? read rest
      return ((name, ← read value.dropLast) :: others, behind)
    return ([(name, ← read value)], rest)
  | _ => none

/-- The text of a name with what is assigned to it. -/
def assignmentText (name : Identifier) (value : String) : String := name.text ++ " = " ++ value

theorem words_assignmentText (name : Identifier) {value : String} (item : IsItem value)
    (ending : List Char) (blankless : ' ' ∉ ending) :
    words ((assignmentText name value).toList ++ ending) =
      [name.text.toList, "=".toList, value.toList ++ ending] := by
  have named : ' ' ∉ name.text.toList := name.not_mem_text rfl
  have last : ' ' ∉ value.toList ++ ending := by simp [item.unbroken, blankless]
  have text : (assignmentText name value).toList ++ ending =
      name.text.toList ++ ' ' :: ("=".toList ++ ' ' :: (value.toList ++ ending)) := by
    simp [assignmentText]
  rw [text, words_append_cons named, words_append_cons (by decide), words_of_not_mem last]

section Assignments

variable {α β : Type} {read : List Char → Option α} {write : β → String} {value : β → α}

theorem readAssignments?_words (name : β → Identifier) (first : β) (others : List β)
    (back : ∀ x ∈ first :: others, read (write x).toList = some (value x))
    (items : ∀ x ∈ first :: others, IsItem (write x)) (rest : List (List Char)) :
    readAssignments? read
        (words (commas ((first :: others).map fun x => assignmentText (name x) (write x))).toList ++
          rest) =
      some ((first :: others).map fun x => (name x, value x), rest) := by
  have read? : read (write first).toList = some (value first) := back first (List.mem_cons_self ..)
  have item : IsItem (write first) := items first (List.mem_cons_self ..)
  induction others generalizing first with
  | nil =>
      have text := words_assignmentText (name first) item [] List.not_mem_nil
      rw [List.append_nil, List.append_nil] at text
      have ended := getLast?_of_not_mem item.single
      simp [commas, text, readAssignments?, readName?_text, ended, read?]
  | cons next others ih =>
      have back := fun x member => back x (List.mem_cons_of_mem first member)
      have items := fun x member => items x (List.mem_cons_of_mem first member)
      have behind := ih next back items (back next (List.mem_cons_self ..))
        (items next (List.mem_cons_self ..))
      have text := words_assignmentText (name first) item [','] (by decide)
      rw [List.map_cons] at behind
      rw [List.map_cons, List.map_cons, toList_commas_cons, words_append, text, List.append_assoc]
      simp only [List.cons_append, List.nil_append, readAssignments?, readName?_text,
        List.getLast?_concat, List.dropLast_concat, if_true, behind, read?, guard_true]
      rfl

end Assignments

/-! ## Rules for rows that are there already -/

/-- What is read about rows that are there already: they stay, or columns of them are assigned columns
of the row that was to be added. -/
inductive Rule
  | nothing
  | overwrite (target : Identifier) (assignments : List (Identifier × Identifier))
  deriving DecidableEq

/-- The column of the row that was to be added. -/
def readExcluded? (word : List Char) : Option Identifier :=
  if word.take 9 = "EXCLUDED.".toList then readName? (word.drop 9) else none

/-- What was read, when no words are left. -/
def ended? {α : Type} : α × List (List Char) → Option α
  | (a, []) => some a
  | _ => none

/-- The column in parentheses. -/
def readTarget? : List Char → Option Identifier
  | '(' :: rest => if rest.getLast? = some ')' then readName? rest.dropLast else none
  | _ => none

/-- The rule in the words behind the rows. -/
def readRule? (words : List (List Char)) : Option Rule := do
  match ← expect? ["ON", "CONFLICT"] words with
  | [] => none
  | word :: rest =>
    if word :: rest = ["DO", "NOTHING"].map String.toList then return .nothing
    let assignments ← expect? ["DO", "UPDATE", "SET"] rest
    return .overwrite (← readTarget? word) (← ended? (← readAssignments? readExcluded? assignments))

/-- The rule that the text of a conflict is read as. -/
def Conflict.rule (conflict : Conflict) : Rule :=
  if conflict.overwrite = [] then .nothing
  else .overwrite conflict.target (conflict.overwrite.map fun c => (c, c))

theorem readExcluded?_text (name : Identifier) :
    readExcluded? ("EXCLUDED." ++ name.text).toList = some name := by
  simp [readExcluded?, readName?_text]

theorem Identifier.isItem_excluded (name : Identifier) : IsItem ("EXCLUDED." ++ name.text) := by
  have plain := name.isItem
  constructor
  · simpa using plain.unbroken
  · simpa using plain.unclosed
  · simpa using plain.single

/-- The words of a rule that overwrites columns. -/
theorem words_overwrite (target : Identifier) (columns : List Identifier) :
    words ("ON CONFLICT (" ++ target.text ++ ") DO UPDATE SET " ++
        commas (columns.map fun c => c.text ++ " = EXCLUDED." ++ c.text)).toList =
      ["ON", "CONFLICT"].map String.toList ++ ('(' :: (target.text.toList ++ [')'])) ::
        (["DO", "UPDATE", "SET"].map String.toList ++
          words (commas (columns.map fun c => assignmentText c ("EXCLUDED." ++ c.text))).toList) := by
  have same : (fun c : Identifier => c.text ++ " = EXCLUDED." ++ c.text) =
      fun c => assignmentText c ("EXCLUDED." ++ c.text) := by
    funext c
    simp [← String.toList_inj, assignmentText]
  have enclosed : ' ' ∉ '(' :: (target.text.toList ++ [')']) := by
    have blankless := target.isItem.unbroken
    simpa using blankless
  have text : ("ON CONFLICT (" ++ target.text ++ ") DO UPDATE SET " ++
      commas (columns.map fun c => assignmentText c ("EXCLUDED." ++ c.text))).toList =
        "ON CONFLICT".toList ++ ' ' :: ('(' :: (target.text.toList ++ [')']) ++
          ' ' :: ("DO UPDATE SET".toList ++ ' ' ::
            (commas (columns.map fun c => assignmentText c ("EXCLUDED." ++ c.text))).toList)) := by
    simp
  rw [same, text, words_append, words_append_cons enclosed, words_append]
  rfl

theorem readRule?_text (conflict : Conflict) :
    readRule? (words conflict.text.toList) = some conflict.rule := by
  unfold Conflict.text Conflict.rule
  by_cases none : conflict.overwrite = []
  · rw [if_pos (by simp [none]), if_pos none]
    decide +kernel
  · rcases List.exists_cons_of_ne_nil none with ⟨column, columns, kept⟩
    have assignments := readAssignments?_words (fun c => c) column columns
      (fun c _ => readExcluded?_text c) (fun c _ => c.isItem_excluded) []
    rw [List.append_nil] at assignments
    have target : readTarget? ('(' :: (conflict.target.text.toList ++ [')'])) =
        some conflict.target := by
      simp [readTarget?, readName?_text]
    rw [if_neg (by simp [none]), if_neg none, words_overwrite, kept, readRule?, expect?_append]
    simp only [Option.bind_eq_bind, Option.bind_some, expect?_append, target, assignments, ended?]
    simp

/-! ## Statements -/

/-- What is read about rows to add. -/
structure Insertion where
  table : Identifier
  columns : List Identifier
  groups : List (List Int)
  rule : Option Rule
  deriving DecidableEq

/-- What is read about rows to change. -/
structure Alteration where
  table : Identifier
  assignments : List (Identifier × Int)
  clauses : List Clause
  deriving DecidableEq

/-- What is read about rows to delete. -/
structure Removal where
  table : Identifier
  clauses : List Clause
  deriving DecidableEq

/-- The table behind expected words, and the words behind it. -/
def readTable? (heads : List String) (words : List (List Char)) :
    Option (Identifier × List (List Char)) := do
  match ← expect? heads words with
  | [] => none
  | table :: rest => return (← readName? table, rest)

/-- The names in the only list of a header. -/
def readHeader? : List (List (List Char)) → Option (List Identifier)
  | [names] => names.mapM readName?
  | _ => none

/-- The clauses of a condition that is there. -/
def readCondition? (words : List (List Char)) : Option (List Clause) := do
  readClauses? (← expect? ["WHERE"] words)

def readInsert? (text : String) : Option Insertion := do
  let (table, rest) ← readTable? ["INSERT", "INTO"] (← unreturned? (words text.toList))
  let (header, rest) ← readLists? rest
  let (groups, rest) ← readLists? (← expect? ["VALUES"] rest)
  let groups ← groups.mapM fun group => group.mapM readPlaceholder?
  let columns ← readHeader? header
  if rest = [] then return ⟨table, columns, groups, none⟩
  return ⟨table, columns, groups, ← readRule? rest⟩

def readUpdate? (text : String) : Option Alteration := do
  let (table, rest) ← readTable? ["UPDATE"] (← unreturned? (words text.toList))
  let (assignments, rest) ← readAssignments? readPlaceholder? (← expect? ["SET"] rest)
  return ⟨table, assignments, ← readCondition? rest⟩

def readDelete? (text : String) : Option Removal := do
  let (table, rest) ← readTable? ["DELETE", "FROM"] (← unreturned? (words text.toList))
  return ⟨table, ← readCondition? rest⟩

theorem readPlaceholder?_text (n : Nat) :
    readPlaceholder? (placeholderText n).toList = some (n : Int) := by
  rw [toList_placeholderText, readPlaceholder?_digits]

theorem readTable?_append (heads : List String) (table : Identifier) (rest : List (List Char)) :
    readTable? heads (heads.map String.toList ++ table.text.toList :: rest) = some (table, rest) := by
  simp only [readTable?, expect?_append, Option.bind_eq_bind, Option.bind_some, readName?_text]
  rfl

theorem readCondition?_text {clauses : List Clause} (some : clauses ≠ [])
    (positive : ∀ clause ∈ clauses, clause.IsNumberedFrom 0) :
    readCondition? (words (whereText clauses).toList) = .some clauses := by
  rcases List.exists_cons_of_ne_nil some with ⟨clause, rest, rfl⟩
  have text : (whereText (clause :: rest)).toList =
      "WHERE".toList ++ ' ' :: (" AND ".intercalate ((clause :: rest).map Clause.text)).toList := by
    simp [whereText]
  rw [text, words_append_cons (by decide), words_joined positive]
  exact readClauses?_words positive

/-- The words of a statement that asks for the rows that it wrote. -/
theorem words_returning (s : String) :
    words (s ++ " RETURNING *").toList = words s.toList ++ returning := by
  have text : (s ++ " RETURNING *").toList = s.toList ++ ' ' :: "RETURNING *".toList := by simp
  rw [text, words_append]
  rfl

/-- The words of an expected beginning and a table before other words. -/
theorem words_table {head : String} (heads : List String)
    (split : words head.toList = heads.map String.toList) (table : Identifier) (rest : List Char) :
    words (head.toList ++ ' ' :: (table.text.toList ++ ' ' :: rest)) =
      heads.map String.toList ++ table.text.toList :: words rest := by
  have named : ' ' ∉ table.text.toList := table.not_mem_text rfl
  rw [words_append, words_append_cons named, split]

theorem words_delete (table : Identifier) (clauses : List Clause) :
    words (Statement.delete table clauses).text.toList =
      ["DELETE", "FROM"].map String.toList ++
        table.text.toList :: words (whereText clauses).toList ++ returning := by
  have text : ("DELETE FROM " ++ table.text ++ " " ++ whereText clauses).toList =
      "DELETE FROM".toList ++ ' ' :: (table.text.toList ++ ' ' :: (whereText clauses).toList) := by
    simp
  refine (words_returning _).trans ?_
  rw [text, words_table ["DELETE", "FROM"] (by decide +kernel)]

theorem words_update (table : Identifier) (assignments : List (Identifier × Nat))
    (clauses : List Clause) :
    words (Statement.update table assignments clauses).text.toList =
      ["UPDATE"].map String.toList ++ table.text.toList :: (["SET"].map String.toList ++
        (words (commas (assignments.map fun pair =>
            assignmentText pair.1 (placeholderText pair.2))).toList ++
          words (whereText clauses).toList)) ++ returning := by
  have written : (Statement.update table assignments clauses).text =
      "UPDATE " ++ table.text ++ " SET " ++
        commas (assignments.map fun pair => assignmentText pair.1 (placeholderText pair.2)) ++ " " ++
          whereText clauses ++ " RETURNING *" := rfl
  have text : ("UPDATE " ++ table.text ++ " SET " ++
      commas (assignments.map fun pair => assignmentText pair.1 (placeholderText pair.2)) ++ " " ++
        whereText clauses).toList =
      "UPDATE".toList ++ ' ' :: (table.text.toList ++ ' ' :: ("SET".toList ++ ' ' ::
        ((commas (assignments.map fun pair => assignmentText pair.1 (placeholderText pair.2))).toList ++
          ' ' :: (whereText clauses).toList))) := by
    simp
  rw [written, words_returning, text, words_table ["UPDATE"] (by decide +kernel), words_append, words_append]
  rfl

theorem words_insert (table : Identifier) (columns : List Identifier) (groups : List (List Nat))
    (conflict : Option Conflict) :
    words (Statement.insert table columns groups conflict).text.toList =
      ["INSERT", "INTO"].map String.toList ++ table.text.toList ::
        (words (commas ([columns.map Identifier.text].map listText)).toList ++
          (["VALUES"].map String.toList ++
            (words (commas ((groups.map fun group =>
              group.map fun (n : Nat) => placeholderText n).map listText)).toList ++
                conflict.elim [] fun rule => words rule.text.toList))) ++ returning := by
  have groupTexts : groups.map groupText =
      (groups.map fun group => group.map fun (n : Nat) => placeholderText n).map listText := by
    rw [List.map_map]
    rfl
  have text : ("INSERT INTO " ++ table.text ++ " (" ++ nameList columns ++ ") VALUES " ++
      commas (groups.map groupText) ++ conflictText conflict).toList =
      "INSERT INTO".toList ++ ' ' :: (table.text.toList ++ ' ' ::
        ((commas ([columns.map Identifier.text].map listText)).toList ++ ' ' :: ("VALUES".toList ++ ' ' ::
          ((commas ((groups.map fun group =>
            group.map fun (n : Nat) => placeholderText n).map listText)).toList ++
              (conflictText conflict).toList)))) := by
    rw [groupTexts]
    simp [nameList, listText, commas]
  refine (words_returning _).trans ?_
  rw [text, words_table ["INSERT", "INTO"] (by decide +kernel), words_append, words_append]
  cases conflict with
  | none =>
      rw [conflictText, String.toList_empty, List.append_nil, Option.elim_none, List.append_nil]
      rfl
  | some rule =>
      have behind : (conflictText (some rule)).toList = ' ' :: rule.text.toList := by
        simp [conflictText]
      rw [behind, words_append]
      rfl

theorem readDelete?_text (table : Identifier) {clauses : List Clause} (some : clauses ≠ [])
    (positive : ∀ clause ∈ clauses, clause.IsNumberedFrom 0) :
    readDelete? (Statement.delete table clauses).text = .some ⟨table, clauses⟩ := by
  rw [readDelete?, words_delete, unreturned?_append]
  simp only [Option.bind_eq_bind, Option.bind_some, readTable?_append,
    readCondition?_text some positive]
  rfl

theorem readUpdate?_text (table : Identifier) {assignments : List (Identifier × Nat)}
    {clauses : List Clause} (set : assignments ≠ []) (some : clauses ≠ [])
    (positive : ∀ clause ∈ clauses, clause.IsNumberedFrom 0) :
    readUpdate? (Statement.update table assignments clauses).text =
      .some ⟨table, assignments.map fun pair => (pair.1, (pair.2 : Int)), clauses⟩ := by
  have condition := readCondition?_text some positive
  rcases List.exists_cons_of_ne_nil set with ⟨pair, pairs, rfl⟩
  have assigned := readAssignments?_words Prod.fst pair pairs
    (fun p _ => readPlaceholder?_text p.2) (fun p _ => isItem_placeholder p.2)
    (words (whereText clauses).toList)
  rw [readUpdate?, words_update, unreturned?_append]
  simp only [Option.bind_eq_bind, Option.bind_some, readTable?_append, expect?_append, assigned,
    condition]
  rfl

theorem readInsert?_text (table : Identifier) {columns : List Identifier} {groups : List (List Nat)}
    (conflict : Option Conflict) (named : columns ≠ []) (some : groups ≠ [])
    (full : ∀ group ∈ groups, group ≠ []) :
    readInsert? (Statement.insert table columns groups conflict).text =
      .some ⟨table, columns, groups.map fun group => group.map Int.ofNat,
        conflict.map Conflict.rule⟩ := by
  have isHeader : IsList (columns.map Identifier.text) :=
    ⟨by simpa using named, by simp [Identifier.isItem]⟩
  have isGroup : ∀ group ∈ groups, IsList (group.map fun (n : Nat) => placeholderText n) :=
    fun group member => ⟨by simpa using full group member, by simp [isItem_placeholder]⟩
  have header := readLists?_words [columns.map Identifier.text] nofun (by simpa using isHeader)
  have rows := readLists?_words
    (groups.map fun group => group.map fun (n : Nat) => placeholderText n)
    (by simpa using some) (by simpa using isGroup)
  have numbers : ((groups.map fun group => group.map fun (n : Nat) => placeholderText n).map fun l =>
      l.map String.toList).mapM (fun group => group.mapM readPlaceholder?) =
        .some (groups.map fun group => group.map Int.ofNat) := by
    rw [List.map_map]
    refine mapM_map_eq_some fun group _ => ?_
    rw [Function.comp_apply, List.map_map]
    exact mapM_map_eq_some fun n _ => readPlaceholder?_text n
  have names : readHeader? ([columns.map Identifier.text].map fun l => l.map String.toList) =
      .some columns := by
    rw [List.map_singleton, readHeader?, List.map_map]
    exact (mapM_map_eq_some fun c _ => readName?_text c).trans (congrArg _ (List.map_id columns))
  rw [readInsert?, words_insert, unreturned?_append]
  simp only [Option.bind_eq_bind, Option.bind_some, readTable?_append, expect?_append, header, rows,
    numbers, names]
  cases conflict with
  | none => rfl
  | some rule =>
      have there : words rule.text.toList ≠ [] := pieces_ne_nil _
      rw [Option.elim_some, if_neg there, readRule?_text]
      rfl

/-! ## Arguments -/

/-- Does an argument carry a value? Mappings and lists travel as documents, other values plainly. -/
def Argument.Carries (argument : Argument) (value : Value) : Prop :=
  argument.value = value ∧ ((∃ document, argument = .document document) ↔
    (∃ fields, value = .object fields) ∨ ∃ items, value = .list items)

theorem Argument.carries_ofValue (value : Value) : (Argument.ofValue value).Carries value := by
  refine ⟨Argument.value_ofValue value, ?_⟩
  cases value <;> simp [Argument.ofValue]

/-- The argument for a placeholder; the arguments are counted from one on. -/
def argumentFor? (arguments : List Argument) (n : Int) : Option Argument :=
  if 1 ≤ n then arguments[n.toNat - 1]? else none

end DataGateway.Sql
