import DataGateway.Proofs.Number.Numeral
import DataGateway.Proofs.Text.Search
import DataGateway.Sql.Builder
import Mathlib.Data.Option.Basic

/-!
# Reading conditions back

The text of a condition determines its clauses: every clause is three words, a column, an operator
and an operand, and the word `AND` stands between two clauses.

* `readWhere?` reads the clauses from the text of a condition;
* `readWhere?_whereText` — it reads back what was written, when the placeholders are positive.
-/

namespace DataGateway.Sql

open Text

/-! ## Characters of identifiers -/

/-- May the character stand in an identifier, the line feed at its end included? -/
def isNameChar (c : Char) : Bool := isWordPart c || c == '.' || c == '\n'

theorem afterWord?_eq_some {s rest : List Char} (h : afterWord? s = some rest) :
    ∃ c word, s = c :: word ++ rest ∧ isWordStart c = true ∧ ∀ d ∈ word, isWordPart d = true := by
  cases s with
  | nil => cases h
  | cons c s =>
      simp only [afterWord?, Option.ite_none_right_eq_some, Option.some.injEq] at h
      rcases h with ⟨start, rfl⟩
      refine ⟨c, s.takeWhile isWordPart, ?_, start, fun d hd => ?_⟩
      · simp [List.takeWhile_append_dropWhile]
      · exact List.mem_takeWhile_imp hd

theorem isNameChar_of_isWordPart {c : Char} (h : isWordPart c = true) : isNameChar c = true := by
  simp [isNameChar, h]

theorem isNameChar_of_afterWord? {s rest : List Char} (h : afterWord? s = some rest)
    (after : ∀ c ∈ rest, isNameChar c = true) : ∀ c ∈ s, isNameChar c = true := by
  rcases afterWord?_eq_some h with ⟨c, word, rfl, start, parts⟩
  intro d hd
  rcases List.mem_append.1 hd with hd | hd
  · rcases List.mem_cons.1 hd with rfl | hd
    · exact isNameChar_of_isWordPart (by simp [isWordPart, start])
    · exact isNameChar_of_isWordPart (parts d hd)
  · exact after d hd

theorem isNameChar_of_ending {rest : List Char} (h : (rest.isEmpty || rest == ['\n']) = true) :
    ∀ c ∈ rest, isNameChar c = true := by
  simp only [Bool.or_eq_true, List.isEmpty_iff, beq_iff_eq] at h
  rcases h with rfl | rfl
  · intro c hc
    cases hc
  · intro c hc
    rw [List.mem_singleton.1 hc]
    rfl

theorem isNameChar_of_isIdentifier {s : List Char} (h : isIdentifier s = true) :
    ∀ c ∈ s, isNameChar c = true := by
  unfold isIdentifier at h
  split at h
  · cases h
  · rename_i rest first
    split at h
    · rename_i last second
      apply isNameChar_of_afterWord? first
      intro c hc
      rcases List.mem_cons.1 hc with rfl | hc
      · rfl
      · exact isNameChar_of_afterWord? second (isNameChar_of_ending h) c hc
    · cases h
  · rename_i rest _ first
    exact isNameChar_of_afterWord? first (isNameChar_of_ending h)

namespace Identifier

theorem not_mem_text {c : Char} (h : isNameChar c = false) (name : Identifier) :
    c ∉ name.text.toList := by
  intro hc
  rw [isNameChar_of_isIdentifier name.valid c hc] at h
  cases h

theorem ofName_text (name : Identifier) : ofName name.text = .ok name := by
  simp [ofName, ofValue, name.valid]

theorem ofName_eq_ok {s : String} {name : Identifier} (h : ofName s = .ok name) :
    s = name.text := by
  simp only [ofName, ofValue] at h
  split at h
  · cases h
    rfl
  · cases h

theorem label_of_ofName_eq_error {s : String} {fault : Fault} (h : ofName s = .error fault) :
    fault.label = "ValidationError" := by
  simp only [ofName, ofValue] at h
  split at h
  · cases h
  · cases h
    rfl

end Identifier

/-! ## Words -/

/-- The words of a text, between single blanks. -/
def words (s : List Char) : List (List Char) := pieces ' ' s

theorem words_of_not_mem {s : List Char} (h : ' ' ∉ s) : words s = [s] := pieces_of_not_mem h

theorem words_append_cons {s : List Char} (h : ' ' ∉ s) (rest : List Char) :
    words (s ++ ' ' :: rest) = s :: words rest := pieces_append_cons h rest

/-! ## Reading -/

/-- The number of a placeholder. -/
def readPlaceholder? : List Char → Option Int
  | '$' :: digits =>
    if digits != [] && digits.all Numeral.isDigit then some (Numeral.digitsValue digits) else none
  | _ => none

/-- The number of the placeholder whose elements are meant. -/
def readElements? : List Char → Option Int
  | 'A' :: 'N' :: 'Y' :: '(' :: rest =>
    if rest.getLast? == some ')' then readPlaceholder? rest.dropLast else none
  | _ => none

/-- The comparison of an operator and an operand, and the placeholder in it. -/
def readComparison? (operator operand : List Char) : Option (Comparison × Int) :=
  match String.ofList operator with
  | "=" =>
    match readElements? operand with
    | some n => some (.anyOf, n)
    | none => (readPlaceholder? operand).map (.equal, ·)
  | "!=" => (readPlaceholder? operand).map (.notEqual, ·)
  | ">" => (readPlaceholder? operand).map (.greater, ·)
  | ">=" => (readPlaceholder? operand).map (.greaterOrEqual, ·)
  | "<" => (readPlaceholder? operand).map (.less, ·)
  | "<=" => (readPlaceholder? operand).map (.lessOrEqual, ·)
  | "LIKE" => (readPlaceholder? operand).map (.like, ·)
  | "ILIKE" => (readPlaceholder? operand).map (.ilike, ·)
  | _ => none

/-- The clause of three words. -/
def readClause? (column operator operand : List Char) : Option Clause :=
  if valid : isIdentifier column = true then
    let name : Identifier := ⟨String.ofList column, by simpa using valid⟩
    if operator = "IS".toList ∧ operand = "NULL".toList then some (.isNull name)
    else (readComparison? operator operand).map fun (comparison, n) => .compared name comparison n
  else none

/-- The clauses of words, three by three with the word `AND` between them. -/
def readClauses? : List (List Char) → Option (List Clause)
  | [column, operator, operand] => do return [← readClause? column operator operand]
  | column :: operator :: operand :: joint :: rest => do
    guard (joint = "AND".toList)
    let clause ← readClause? column operator operand
    return clause :: (← readClauses? rest)
  | _ => none

/-- The clauses of a condition; an empty text has none. -/
def readWhere? (text : String) : Option (List Clause) :=
  if text = "" then some []
  else
    match words text.toList with
    | first :: rest => if first = "WHERE".toList then readClauses? rest else none
    | [] => none

/-! ## Reading what was written -/

/-- The operator of a comparison. -/
def Comparison.operator : Comparison → String
  | .equal => "="
  | .notEqual => "!="
  | .greater => ">"
  | .greaterOrEqual => ">="
  | .less => "<"
  | .lessOrEqual => "<="
  | .anyOf => "="
  | .like => "LIKE"
  | .ilike => "ILIKE"

/-- The operand of a comparison with a placeholder. -/
def Comparison.operand (comparison : Comparison) (n : Int) : String :=
  if comparison = .anyOf then "ANY(" ++ placeholderText n ++ ")" else placeholderText n

/-- The three words of a clause. -/
def Clause.words : Clause → List (List Char)
  | .isNull column => [column.text.toList, "IS".toList, "NULL".toList]
  | .compared column comparison n =>
    [column.text.toList, comparison.operator.toList, (comparison.operand n).toList]

/-- Is the placeholder of the clause, if it has one, at least a number? -/
def Clause.IsNumberedFrom (start : Int) : Clause → Prop
  | .isNull _ => True
  | .compared _ _ n => start ≤ n

theorem Clause.IsNumberedFrom.mono {clause : Clause} {m n : Int}
    (h : clause.IsNumberedFrom n) (le : m ≤ n) : clause.IsNumberedFrom m := by
  cases clause with
  | isNull column => trivial
  | compared column comparison k => exact Int.le_trans le h

theorem toList_placeholderText (n : Nat) :
    (placeholderText n).toList = '$' :: Nat.toDigits 10 n := by
  simp [placeholderText, Int.toString_eq_repr, Int.repr]

theorem readPlaceholder?_digits (n : Nat) :
    readPlaceholder? ('$' :: Nat.toDigits 10 n) = some (n : Int) := by
  have digits : (Nat.toDigits 10 n).all Numeral.isDigit = true :=
    List.all_eq_true.2 fun c hc => Numeral.isDigit_of_mem_toDigits hc
  simp [readPlaceholder?, digits, Nat.toDigits_ne_nil, Numeral.digitsValue_toDigits]

theorem readElements?_digits (n : Nat) :
    readElements? ("ANY($".toList ++ (Nat.toDigits 10 n ++ [')'])) = some (n : Int) := by
  have digits := readPlaceholder?_digits n
  have last : ('$' :: (Nat.toDigits 10 n ++ [')'])).getLast? = some ')' := by
    rw [← List.cons_append, List.getLast?_concat]
  have init : ('$' :: (Nat.toDigits 10 n ++ [')'])).dropLast = '$' :: Nat.toDigits 10 n := by
    rw [← List.cons_append, List.dropLast_concat]
  simp [readElements?, last, init, digits]

theorem readComparison?_words (comparison : Comparison) (n : Nat) :
    readComparison? comparison.operator.toList (comparison.operand n).toList =
      some (comparison, (n : Int)) := by
  have digits := readPlaceholder?_digits n
  have elements := readElements?_digits n
  cases comparison
  case anyOf =>
      simp [Comparison.operand, toList_placeholderText] at elements ⊢
      simp [readComparison?, Comparison.operator, elements]
  all_goals
      simp [readComparison?, readElements?, Comparison.operator, Comparison.operand,
        toList_placeholderText, digits]

theorem readClause?_words {clause : Clause} (positive : clause.IsNumberedFrom 0) :
    ∃ column operator operand, clause.words = [column, operator, operand] ∧
      readClause? column operator operand = some clause := by
  cases clause with
  | isNull column =>
      refine ⟨_, _, _, rfl, ?_⟩
      simp [readClause?, column.valid]
  | compared column comparison n =>
      refine ⟨_, _, _, rfl, ?_⟩
      rcases Int.eq_ofNat_of_zero_le positive with ⟨k, rfl⟩
      -- no operator can be taken for a check for null
      have other : comparison.operator.toList ≠ "IS".toList := by cases comparison <;> decide
      rw [readClause?, dif_pos (by simpa using column.valid), if_neg fun h => other h.1,
        readComparison?_words]
      simp

theorem readClauses?_words {clause : Clause} {rest : List Clause}
    (positive : ∀ c ∈ clause :: rest, c.IsNumberedFrom 0) :
    readClauses? (clause.words ++ rest.flatMap fun c => "AND".toList :: c.words) =
      some (clause :: rest) := by
  induction rest generalizing clause with
  | nil =>
      rcases readClause?_words (positive clause (List.mem_cons_self ..)) with
        ⟨column, operator, operand, three, read⟩
      simp [three, readClauses?, read]
  | cons next rest ih =>
      rcases readClause?_words (positive clause (List.mem_cons_self ..)) with
        ⟨column, operator, operand, three, read⟩
      have others := ih fun c hc => positive c (List.mem_cons_of_mem clause hc)
      rw [three, List.flatMap_cons]
      simp only [List.cons_append, List.nil_append, readClauses?, others, read]
      rfl

theorem not_blank_operand (comparison : Comparison) (n : Nat) :
    ' ' ∉ (comparison.operand n).toList := by
  have digits : ' ' ∉ Nat.toDigits 10 n := by
    intro h
    cases Numeral.isDigit_of_mem_toDigits h
  cases comparison <;> simp [Comparison.operand, toList_placeholderText, digits]

/-- The text of a clause is its three words, and no blank is inside of one. -/
theorem Clause.toList_text {clause : Clause} (positive : clause.IsNumberedFrom 0) :
    ∃ column operator operand, clause.words = [column, operator, operand] ∧
      clause.text.toList = column ++ ' ' :: (operator ++ ' ' :: operand) ∧
      ' ' ∉ column ∧ ' ' ∉ operator ∧ ' ' ∉ operand := by
  cases clause with
  | isNull column =>
      refine ⟨_, _, _, rfl, ?_, column.not_mem_text rfl, by decide, by decide⟩
      simp [Clause.text]
  | compared column comparison n =>
      rcases Int.eq_ofNat_of_zero_le positive with ⟨k, rfl⟩
      have blankless : ' ' ∉ comparison.operator.toList := by cases comparison <;> decide
      refine ⟨_, _, _, rfl, ?_, column.not_mem_text rfl, blankless, not_blank_operand comparison k⟩
      cases comparison <;>
        simp [Clause.text, Comparison.text, Comparison.operator, Comparison.operand]

theorem words_clause {clause : Clause} (positive : clause.IsNumberedFrom 0) :
    Sql.words clause.text.toList = clause.words := by
  rcases clause.toList_text positive with ⟨a, b, c, three, text, ha, hb, hc⟩
  rw [text, three, words_append_cons ha, words_append_cons hb, words_of_not_mem hc]

theorem words_clause_append {clause : Clause} (positive : clause.IsNumberedFrom 0)
    (rest : List Char) :
    Sql.words (clause.text.toList ++ ' ' :: rest) = clause.words ++ Sql.words rest := by
  rcases clause.toList_text positive with ⟨a, b, c, three, text, ha, hb, hc⟩
  rw [text, three, List.append_assoc, List.cons_append, List.append_assoc, List.cons_append,
    words_append_cons ha, words_append_cons hb, words_append_cons hc]
  rfl

theorem words_joined {clause : Clause} {rest : List Clause}
    (positive : ∀ c ∈ clause :: rest, c.IsNumberedFrom 0) :
    Sql.words (" AND ".intercalate ((clause :: rest).map Clause.text)).toList =
      clause.words ++ rest.flatMap fun c => "AND".toList :: c.words := by
  induction rest generalizing clause with
  | nil =>
      simpa using words_clause (positive clause (List.mem_cons_self ..))
  | cons next rest ih =>
      have others := ih fun c hc => positive c (List.mem_cons_of_mem clause hc)
      have first : clause.IsNumberedFrom 0 := positive clause (List.mem_cons_self ..)
      -- the word between two clauses is a word of its own, with a blank on both sides
      have joint : (" AND ".intercalate ((clause :: next :: rest).map Clause.text)).toList =
          clause.text.toList ++ ' ' :: ("AND".toList ++
            ' ' :: (" AND ".intercalate ((next :: rest).map Clause.text)).toList) := by
        simp [String.intercalate_cons_cons]
      rw [joint, words_clause_append first, words_append_cons (by decide), others]
      simp

/-- The text of a condition with positive placeholders is read back as its clauses. -/
theorem readWhere?_whereText {clauses : List Clause}
    (positive : ∀ clause ∈ clauses, clause.IsNumberedFrom 0) :
    readWhere? (whereText clauses) = some clauses := by
  cases clauses with
  | nil => rfl
  | cons clause rest =>
      have text : (whereText (clause :: rest)).toList =
          "WHERE".toList ++ ' ' :: (" AND ".intercalate ((clause :: rest).map Clause.text)).toList := by
        simp [whereText]
      have some : whereText (clause :: rest) ≠ "" := by
        intro h
        have empty := congrArg String.toList h
        rw [text] at empty
        simp at empty
      rw [readWhere?, if_neg some, text, words_append_cons (by decide), words_joined positive]
      exact readClauses?_words positive

end DataGateway.Sql
