import DataGateway.Proofs.Query.Page
import DataGateway.Proofs.Sql.Reading

/-!
# The bounds of a statement

The page that the text of a statement asks for: the two words at its end, and the two before them. What
stands in front of the bounds ends in a word that is no number, so nothing there is taken for one.

* `readPage` — the page that a text asks for;
* `readPage_select` — the text of a reading statement asks for its bounds.
-/

namespace DataGateway.Sql

open Text

/-! ## Reading -/

def readNumber? (word : List Char) : Option Nat :=
  if word != [] && word.all Numeral.isDigit then some (Numeral.digitsValue word) else none

/-- A bound at the end of a text, whose words come in reverse, and the words before it. -/
def takeBound (keyword : String) : List (List Char) → Option Nat × List (List Char)
  | number :: word :: before =>
    if word = keyword.toList then
      match readNumber? number with
      | some n => (some n, before)
      | none => (none, number :: word :: before)
    else (none, number :: word :: before)
  | few => (none, few)

/-- The page that a text asks for. -/
def readPage (text : String) : Query.Page :=
  let (offset, before) := takeBound "OFFSET" (words text.toList).reverse
  let (limit, _) := takeBound "LIMIT" before
  ⟨offset.getD 0, limit⟩

/-! ## Ends of texts -/

/-- Does a text end in a word that is no number? -/
def EndsInWord (s : List Char) : Prop :=
  ∃ front word, s = front ++ word ∧ ' ' ∉ word ∧ ∃ c ∈ word, Numeral.isDigit c = false

theorem EndsInWord.append {s : List Char} (ends : EndsInWord s) (front : List Char) :
    EndsInWord (front ++ s) := by
  rcases ends with ⟨before, word, rfl, blankless, letter⟩
  exact ⟨front ++ before, word, (List.append_assoc ..).symm, blankless, letter⟩

/-- Characters without a blank go to the last word. -/
theorem words_append_last (front : List Char) {word : List Char} (blankless : ' ' ∉ word) :
    ∃ before last, words (front ++ word) = before ++ [last ++ word] := by
  -- a blank in front starts a word of its own, every other character joins the first word
  induction front with
  | nil => exact ⟨[], [], words_of_not_mem blankless⟩
  | cons c front ih =>
      rcases ih with ⟨before, last, split⟩
      rw [words] at split
      rw [List.cons_append, words, pieces, split]
      split
      · exact ⟨[] :: before, last, rfl⟩
      · cases before with
        | nil => exact ⟨[], c :: last, rfl⟩
        | cons first before => exact ⟨(c :: first) :: before, last, rfl⟩

theorem takeBound_of_endsInWord {s : List Char} (ends : EndsInWord s) (keyword : String) :
    takeBound keyword (words s).reverse = (none, (words s).reverse) := by
  rcases ends with ⟨front, word, rfl, blankless, c, member, letter⟩
  rcases words_append_last front blankless with ⟨before, last, split⟩
  have unread : readNumber? (last ++ word) = none := by
    refine if_neg fun number => ?_
    have digits := List.all_eq_true.1 (Bool.and_eq_true .. ▸ number).2
    exact absurd (digits c (List.mem_append_right _ member)) (by rw [letter]; nofun)
  rw [split, List.reverse_append, List.reverse_singleton, List.singleton_append]
  cases before.reverse with
  | nil => rfl
  | cons next rest =>
      rw [takeBound, unread]
      split <;> rfl

theorem takeBound_of_ne {keyword : String} {word : List Char} (other : word ≠ keyword.toList)
    (number : List Char) (before : List (List Char)) :
    takeBound keyword (number :: word :: before) = (none, number :: word :: before) := if_neg other

/-! ## Texts before the bounds -/

theorem isDigit_of_isWordStart {c : Char} (start : isWordStart c = true) :
    Numeral.isDigit c = false := by
  have letter : 58 ≤ c.toNat := by
    simp only [isWordStart, Bool.or_eq_true, Bool.and_eq_true, decide_eq_true_iff,
      beq_iff_eq] at start
    rcases start with (⟨upper, -⟩ | ⟨lower, -⟩) | rfl
    · exact Nat.le_trans (by decide) (UInt32.le_iff_toNat_le.1 upper)
    · exact Nat.le_trans (by decide) (UInt32.le_iff_toNat_le.1 lower)
    · decide
  rw [← Bool.not_eq_true]
  intro digit
  have bounds := Numeral.toNat_of_isDigit digit
  omega

theorem Identifier.endsInWord (name : Identifier) : EndsInWord name.text.toList := by
  refine ⟨[], name.text.toList, rfl, name.not_mem_text rfl, ?_⟩
  cases first : afterWord? name.text.toList with
  | none =>
      have valid := name.valid
      rw [isIdentifier, first] at valid
      cases valid
  | some rest =>
      rcases afterWord?_eq_some first with ⟨c, word, text, start, _⟩
      rw [text]
      exact ⟨c, List.mem_cons_self .., isDigit_of_isWordStart start⟩

theorem not_blank_toString (n : Int) : ' ' ∉ (toString n).toList := by
  have digits {m : Nat} : ' ' ∉ Nat.toDigits 10 m :=
    fun blank => nomatch Numeral.isDigit_of_mem_toDigits blank
  cases n with
  | ofNat m => simpa [Int.toString_eq_repr, Int.repr] using digits
  | negSucc m => simpa [Int.toString_eq_repr, Int.repr] using digits

theorem Clause.endsInWord (clause : Clause) : EndsInWord clause.text.toList := by
  cases clause with
  | isNull column =>
      refine ⟨(column.text ++ " IS ").toList, "NULL".toList, ?_, by decide, 'N', by decide, rfl⟩
      simp [Clause.text]
  | compared column comparison n =>
      have blankless := not_blank_toString n
      have plain : EndsInWord (placeholderText n).toList := by
        refine ⟨[], (placeholderText n).toList, rfl, ?_, '$', by simp [placeholderText], rfl⟩
        simpa [placeholderText] using blankless
      have listed : EndsInWord (placeholderText n ++ ")").toList := by
        refine ⟨[], (placeholderText n ++ ")").toList, rfl, ?_, ')', by simp, rfl⟩
        simpa [placeholderText] using blankless
      have behind (front text : String) (ends : EndsInWord text.toList) :
          EndsInWord (column.text ++ " " ++ (front ++ text)).toList := by
        rw [← String.append_assoc, String.toList_append]
        exact ends.append _
      cases comparison with
      | anyOf =>
          have text : (Clause.compared column .anyOf n).text =
              column.text ++ " " ++ ("= ANY(" ++ (placeholderText n ++ ")")) := by
            simp [Clause.text, Comparison.text, String.append_assoc]
          rw [text]
          exact behind _ _ listed
      | _ => exact behind _ _ plain

theorem endsInWord_whereText {clauses : List Clause} (some : clauses ≠ []) :
    EndsInWord (whereText clauses).toList := by
  cases clauses with
  | nil => exact absurd rfl some
  | cons clause rest =>
      have joint : EndsInWord (" AND ".intercalate ((clause :: rest).map Clause.text)).toList := by
        clear some
        -- the last clause decides
        induction rest generalizing clause with
        | nil => simpa using clause.endsInWord
        | cons next rest ih =>
            have text : (" AND ".intercalate ((clause :: next :: rest).map Clause.text)).toList =
                (clause.text ++ " AND ").toList ++
                  (" AND ".intercalate ((next :: rest).map Clause.text)).toList := by
              simp [String.intercalate_cons_cons]
            rw [text]
            exact (ih next).append _
      have filled : ¬(clause :: rest).isEmpty = true := Bool.false_ne_true
      rw [whereText, if_neg filled, String.toList_append]
      exact joint.append _

/-- The text of a reading statement without its bounds. -/
def unboundedText (columns : Option (List Identifier)) (table : Identifier) (clauses : List Clause)
    (order : Option (Identifier × Bool)) : String :=
  joined ("SELECT " ++ columnsText columns ++ " FROM " ++ table.text) (whereText clauses) ++
    orderText order

theorem endsInWord_unboundedText (columns : Option (List Identifier)) (table : Identifier)
    (clauses : List Clause) (order : Option (Identifier × Bool)) :
    EndsInWord (unboundedText columns table clauses order).toList := by
  rw [unboundedText, String.toList_append]
  cases order with
  | some order =>
      rcases order with ⟨column, ascending⟩
      refine EndsInWord.append ?_ _
      rw [orderText, String.toList_append]
      refine EndsInWord.append ?_ _
      cases ascending with
      | true => exact ⟨[' '], "ASC".toList, rfl, by decide, 'A', by decide, rfl⟩
      | false => exact ⟨[' '], "DESC".toList, rfl, by decide, 'D', by decide, rfl⟩
  | none =>
      rw [orderText, String.toList_empty, List.append_nil, joined]
      split
      · rw [String.toList_append]
        exact table.endsInWord.append _
      · rename_i given
        have some : clauses ≠ [] := by
          rintro rfl
          exact given rfl
        rw [String.toList_append]
        exact (endsInWord_whereText some).append _

/-! ## Bounds -/

theorem readNumber?_toString {n : Int} (nonneg : 0 ≤ n) :
    readNumber? (toString n).toList = some n.toNat := by
  have digits : (Nat.toDigits 10 n.toNat).all Numeral.isDigit = true :=
    List.all_eq_true.2 fun c member => Numeral.isDigit_of_mem_toDigits member
  rw [Numeral.toList_toString nonneg, readNumber?, digits, Numeral.digitsValue_toDigits,
    if_pos (by simp [Nat.toDigits_ne_nil])]

theorem words_boundText (n : Int) {keyword : String}
    (blankless : ' ' ∉ keyword.toList) (front : List Char) :
    words (front ++ (boundText keyword (some n)).toList) =
      words front ++ [keyword.toList, (toString n).toList] := by
  have text : (boundText keyword (some n)).toList =
      ' ' :: (keyword.toList ++ ' ' :: (toString n).toList) := by
    simp [boundText]
  rw [text, words, pieces_append, pieces_append_cons blankless,
    pieces_of_not_mem (not_blank_toString n)]
  rfl

/-- A bound at the end of a text is found, and what is left are the words before it. -/
theorem takeBound_boundText {bound : Option Int} (nonneg : ∀ n ∈ bound, 0 ≤ n) {keyword : String}
    (blankless : ' ' ∉ keyword.toList) {front : List Char}
    (unbounded : takeBound keyword (words front).reverse = (none, (words front).reverse)) :
    takeBound keyword (words (front ++ (boundText keyword bound).toList)).reverse =
      (bound.map Int.toNat, (words front).reverse) := by
  cases bound with
  | none =>
      rw [boundText, String.toList_empty, List.append_nil]
      exact unbounded
  | some n =>
      have read := readNumber?_toString (nonneg n rfl)
      rw [words_boundText n blankless, List.reverse_append]
      simp only [List.reverse_cons, List.reverse_nil, List.nil_append, List.cons_append, takeBound,
        if_true, read]
      rfl

/-- The text of a reading statement asks for its bounds and nothing else. -/
theorem readPage_select (columns : Option (List Identifier)) (table : Identifier)
    (clauses : List Clause) (order : Option (Identifier × Bool)) {limit offset : Option Int}
    (limited : ∀ n ∈ limit, 0 ≤ n) (shifted : ∀ n ∈ offset, 0 ≤ n) :
    readPage (Statement.select columns table clauses order limit offset).text =
      ⟨(offset.map Int.toNat).getD 0, limit.map Int.toNat⟩ := by
  have front := endsInWord_unboundedText columns table clauses order
  have text : (Statement.select columns table clauses order limit offset).text.toList =
      (unboundedText columns table clauses order).toList ++ (boundText "LIMIT" limit).toList ++
        (boundText "OFFSET" offset).toList := by
    have whole : (Statement.select columns table clauses order limit offset).text =
        unboundedText columns table clauses order ++ boundText "LIMIT" limit ++
          boundText "OFFSET" offset := rfl
    rw [whole, String.toList_append, String.toList_append]
  -- a limit at the end is no offset
  have other : takeBound "OFFSET" (words ((unboundedText columns table clauses order).toList ++
      (boundText "LIMIT" limit).toList)).reverse = (none, (words ((unboundedText columns table clauses
        order).toList ++ (boundText "LIMIT" limit).toList)).reverse) := by
    cases limit with
    | none =>
        rw [boundText, String.toList_empty, List.append_nil]
        exact takeBound_of_endsInWord front "OFFSET"
    | some n =>
        rw [words_boundText n (by decide), List.reverse_append]
        exact takeBound_of_ne (by decide) _ _
  rw [readPage, text, takeBound_boundText shifted (by decide) other]
  dsimp only
  rw [takeBound_boundText limited (by decide) (takeBound_of_endsInWord front "LIMIT")]

example : readPage "SELECT * FROM notes LIMIT 5 OFFSET 10" = ⟨10, some 5⟩ := by decide

end DataGateway.Sql
