import DataGateway.Proofs.Sql.Reading
import DataGateway.Sql.Placeholder

/-!
# Placeholders in texts

Which placeholders a text shows, from left to right. A text is put together from fragments, and a
placeholder at the end of one fragment must not run into digits at the beginning of the next, so
`Shows` speaks of a fragment together with everything that may follow it.

* `numeralsIn` — the placeholders of a text, as they stand in it;
* `Shows text numbers` — the fragment `text` shows exactly the placeholders `numbers`;
* `Statement.shows_text` — the text of a statement shows the placeholders of the statement.
-/

namespace DataGateway.Sql

open Text

/-! ## Fragments -/

/-- The digits of a placeholder. -/
def Piece.digits? : Piece → Option (List Char)
  | placeholder digits => some digits
  | char _ => none

/-- The digits of the placeholders in a text, from left to right. -/
def numeralsIn (s : List Char) : List (List Char) := (piecesOf s).filterMap Piece.digits?

/-- Does a text begin with no digit? -/
def StartsClear (s : List Char) : Prop := ∀ c ∈ s.head?, isDecimalDigit c = false

/-- The fragment shows these placeholders, whatever follows that begins with no digit. -/
def Shows (text : String) (numbers : List Nat) : Prop :=
  ∀ rest, StartsClear rest →
    numeralsIn (text.toList ++ rest) = numbers.map (Nat.toDigits 10) ++ numeralsIn rest

/-- Is a text free of dollar signs? -/
def IsPlain (text : String) : Prop := '$' ∉ text.toList

theorem StartsClear.append {s t : List Char} (hs : StartsClear s) (ht : StartsClear t) :
    StartsClear (s ++ t) := by
  cases s with
  | nil => exact ht
  | cons c s => exact hs

instance (s : List Char) : Decidable (StartsClear s) :=
  decidable_of_iff (s.head?.all (!isDecimalDigit ·) = true) (by cases s <;> simp [StartsClear])

instance (text : String) : Decidable (IsPlain text) := inferInstanceAs (Decidable ('$' ∉ _))

theorem piecesOf_cons {c : Char} (other : c ≠ '$') (rest : List Char) :
    piecesOf (c :: rest) = .char c :: piecesOf rest := by
  simp [piecesOf, other]

theorem takeWhile_piecesOf {rest : List Char} (clear : StartsClear rest) :
    (piecesOf rest).takeWhile Piece.isDigit = [] := by
  cases rest with
  | nil => rfl
  | cons c rest =>
      have digitless : isDecimalDigit c = false := clear c rfl
      simp only [piecesOf]
      split
      · rfl
      · simp [Piece.isDigit, digitless]

theorem isDecimalDigit_of_isDigit {c : Char} (h : Numeral.isDigit c = true) :
    isDecimalDigit c = true := by
  have bounds := Numeral.toNat_of_isDigit h
  have small : c.toNat < 0x80 := by omega
  have digit : '0' ≤ c ∧ c ≤ '9' := by simpa [Numeral.isDigit] using h
  simp [isDecimalDigit, digitValue?, small, digit]

section Digits

variable {digits : List Char} (decimal : ∀ c ∈ digits, isDecimalDigit c = true)

include decimal

theorem not_mem_of_decimal : '$' ∉ digits := by
  intro member
  exact absurd (decimal '$' member) (by decide)

theorem piecesOf_digits (rest : List Char) :
    piecesOf (digits ++ rest) = digits.map .char ++ piecesOf rest := by
  have clear : '$' ∉ digits := not_mem_of_decimal decimal
  clear decimal
  induction digits with
  | nil => rfl
  | cons c digits ih =>
      rcases not_or.1 (mt List.mem_cons.2 clear) with ⟨other, others⟩
      simp [piecesOf_cons (Ne.symm other), ih others]

theorem piecesOf_placeholder {rest : List Char} (some : digits ≠ []) (clear : StartsClear rest) :
    piecesOf ('$' :: (digits ++ rest)) = .placeholder digits :: piecesOf rest := by
  have digit : ∀ piece ∈ digits.map Piece.char, piece.isDigit = true := by
    intro piece hp
    rcases List.mem_map.1 hp with ⟨c, hc, rfl⟩
    exact decimal c hc
  -- the digits end where the rest begins, since it begins with none
  have stop := takeWhile_piecesOf clear
  have taken : (digits.map Piece.char ++ piecesOf rest).takeWhile Piece.isDigit =
      digits.map Piece.char := by
    rw [List.takeWhile_append_of_pos digit, stop, List.append_nil]
  have dropped : (digits.map Piece.char ++ piecesOf rest).dropWhile Piece.isDigit =
      piecesOf rest := by
    rw [List.dropWhile_append_of_pos digit]
    have whole := List.takeWhile_append_dropWhile (p := Piece.isDigit) (l := piecesOf rest)
    rwa [stop] at whole
  have back : (digits.map Piece.char).filterMap Piece.char? = digits := by
    simp [List.filterMap_map, Function.comp_def, Piece.char?]
  simp [piecesOf, piecesOf_digits decimal, taken, dropped, back, some]

end Digits

/-! ## Plain text -/

theorem IsPlain.append {a b : String} (ha : IsPlain a) (hb : IsPlain b) : IsPlain (a ++ b) := by
  simp only [IsPlain, String.toList_append, List.mem_append] at *
  exact fun h => h.elim ha hb

theorem isPlain_intercalate {separator : String} (plain : IsPlain separator) {parts : List String}
    (each : ∀ part ∈ parts, IsPlain part) : IsPlain (separator.intercalate parts) := by
  induction parts with
  | nil => exact (by decide : IsPlain "")
  | cons part parts ih =>
      have first : IsPlain part := each part (List.mem_cons_self ..)
      have others := ih fun p hp => each p (List.mem_cons_of_mem part hp)
      cases parts with
      | nil => simpa using first
      | cons next parts =>
          rw [String.intercalate_cons_cons]
          exact (first.append plain).append others

theorem Identifier.isPlain (name : Identifier) : IsPlain name.text := name.not_mem_text rfl

theorem isPlain_nameList (names : List Identifier) : IsPlain (nameList names) := by
  apply isPlain_intercalate (by decide)
  intro part hp
  rcases List.mem_map.1 hp with ⟨name, _, rfl⟩
  exact name.isPlain

theorem numeralsIn_plain_append {s : List Char} (plain : '$' ∉ s) (rest : List Char) :
    numeralsIn (s ++ rest) = numeralsIn rest := by
  induction s with
  | nil => rfl
  | cons c s ih =>
      have other : c ≠ '$' := fun e => plain (e ▸ List.mem_cons_self ..)
      have tail := ih fun hs => plain (List.mem_cons_of_mem c hs)
      rw [List.cons_append, numeralsIn, piecesOf_cons other]
      exact tail

/-! ## Putting fragments together -/

theorem IsPlain.shows {text : String} (plain : IsPlain text) : Shows text [] :=
  fun rest _ => numeralsIn_plain_append plain rest

theorem shows_placeholder (n : Nat) : Shows (placeholderText n) [n] := by
  intro rest clear
  have decimal : ∀ c ∈ Nat.toDigits 10 n, isDecimalDigit c = true := fun c member =>
    isDecimalDigit_of_isDigit (Numeral.isDigit_of_mem_toDigits member)
  have digits := piecesOf_placeholder decimal Nat.toDigits_ne_nil clear
  rw [toList_placeholderText, List.cons_append, numeralsIn, digits]
  rfl

theorem Shows.append {a b : String} {ms ns : List Nat} (ha : Shows a ms) (hb : Shows b ns)
    (clear : StartsClear b.toList) : Shows (a ++ b) (ms ++ ns) := by
  intro rest hrest
  rw [String.toList_append, List.append_assoc, ha (b.toList ++ rest) (clear.append hrest),
    hb rest hrest, List.map_append, List.append_assoc]

/-- Plain text before a fragment may end in anything. -/
theorem IsPlain.append_shows {a b : String} {ns : List Nat} (ha : IsPlain a) (hb : Shows b ns) :
    Shows (a ++ b) ns := by
  intro rest hrest
  rw [String.toList_append, List.append_assoc, numeralsIn_plain_append ha]
  exact hb rest hrest

/-- Plain text behind a fragment must begin with no digit. -/
theorem Shows.append_plain {a b : String} {ns : List Nat} (ha : Shows a ns) (hb : IsPlain b)
    (clear : StartsClear b.toList) : Shows (a ++ b) ns := by
  have both := ha.append hb.shows clear
  rwa [List.append_nil] at both

/-- Fragments with a separator between them show the placeholders of one after the other. -/
theorem shows_intercalate {α : Type} {text : α → String} {numbers : α → List Nat}
    (separator : String) (plain : IsPlain separator) (clear : StartsClear separator.toList)
    (filled : separator.toList ≠ []) {items : List α}
    (shown : ∀ x ∈ items, Shows (text x) (numbers x)) :
    Shows (separator.intercalate (items.map text)) (items.flatMap numbers) := by
  induction items with
  | nil => exact (by decide : IsPlain "").shows
  | cons x items ih =>
      have first : Shows (text x) (numbers x) := shown x (List.mem_cons_self ..)
      have others := ih fun y hy => shown y (List.mem_cons_of_mem x hy)
      -- the separator may stand behind a placeholder, so it has to begin with no digit
      cases items with
      | nil => simpa using first
      | cons y items =>
          have starts : StartsClear (separator ++
              separator.intercalate ((y :: items).map text)).toList := by
            intro c hc
            cases start : separator.toList with
            | nil => exact absurd start filled
            | cons d rest =>
                rw [String.toList_append, start] at hc
                rw [start] at clear
                exact clear c hc
          have joint : separator.intercalate ((x :: y :: items).map text) =
              text x ++ (separator ++ separator.intercalate ((y :: items).map text)) := by
            simp [String.intercalate_cons_cons, String.append_assoc]
          rw [joint, List.flatMap_cons]
          exact first.append (plain.append_shows others) starts

/-! ## Fragments of statements -/

/-- The placeholder of a clause. -/
def Clause.number? : Clause → Option Nat
  | .isNull _ => none
  | .compared _ _ n => some n.toNat

theorem Clause.shows_text {clause : Clause} (positive : clause.IsNumberedFrom 0) :
    Shows clause.text clause.number?.toList := by
  cases clause with
  | isNull column =>
      exact (column.isPlain.append (by decide)).shows
  | compared column comparison n =>
      rcases Int.eq_ofNat_of_zero_le positive with ⟨k, rfl⟩
      have number := shows_placeholder k
      have operation {operator : String} (plain : IsPlain operator) :
          Shows (operator ++ placeholderText k) [k] := plain.append_shows number
      -- only a test against elements has something behind its placeholder
      have shown : Shows (comparison.text k) [k] := by
        cases comparison
        case anyOf => exact (operation (by decide)).append_plain (by decide) (by decide)
        all_goals exact operation (by decide)
      exact (column.isPlain.append (by decide)).append_shows shown

/-- The placeholders of clauses, in order. -/
def clauseNumbers (clauses : List Clause) : List Nat := clauses.flatMap fun c => c.number?.toList

theorem shows_whereText {clauses : List Clause}
    (positive : ∀ clause ∈ clauses, clause.IsNumberedFrom 0) :
    Shows (whereText clauses) (clauseNumbers clauses) := by
  have joined := shows_intercalate " AND " (by decide) (by decide) (by decide)
    fun c hc => Clause.shows_text (positive c hc)
  cases clauses with
  | nil => exact (by decide : IsPlain "").shows
  | cons clause rest => exact (by decide : IsPlain "WHERE ").append_shows joined

theorem startsClear_whereText (clauses : List Clause) :
    StartsClear (whereText clauses).toList := by
  cases clauses with
  | nil => exact (by decide : StartsClear "".toList)
  | cons clause rest =>
      intro c hc
      have start : c = 'W' := by simpa [whereText, eq_comm] using hc
      rw [start]
      decide

theorem shows_groupText (group : List Nat) : Shows (groupText group) group := by
  have items := shows_intercalate ", " (by decide) (by decide) (by decide)
    fun n (_ : n ∈ group) => shows_placeholder n
  rw [List.flatMap_singleton' group] at items
  have opened : Shows ("(" ++ commas (group.map fun (n : Nat) => placeholderText n)) group :=
    (by decide : IsPlain "(").append_shows items
  exact opened.append_plain (by decide) (by decide)

/-- Names with placeholders, such as assignments and parameters. -/
theorem shows_pairs (sign : String) (plain : IsPlain sign) (pairs : List (Identifier × Nat)) :
    Shows (commas (pairs.map fun (name, n) => name.text ++ sign ++ placeholderText n))
      (pairs.map Prod.snd) := by
  have shown : ∀ pair ∈ pairs, Shows (pair.1.text ++ sign ++ placeholderText pair.2) [pair.2] :=
    fun pair _ => (pair.1.isPlain.append plain).append_shows (shows_placeholder pair.2)
  have items := shows_intercalate ", " (by decide) (by decide) (by decide) shown
  rwa [← List.map_eq_flatMap] at items

theorem Conflict.isPlain (conflict : Conflict) : IsPlain conflict.text := by
  unfold Conflict.text
  split
  · decide
  · have columns : IsPlain (commas (conflict.overwrite.map
        fun c => c.text ++ " = EXCLUDED." ++ c.text)) := by
      apply isPlain_intercalate (by decide)
      intro part hp
      rcases List.mem_map.1 hp with ⟨column, _, rfl⟩
      exact (column.isPlain.append (by decide)).append column.isPlain
    have target : IsPlain ("ON CONFLICT (" ++ conflict.target.text) :=
      IsPlain.append (by decide) conflict.target.isPlain
    exact (target.append (by decide)).append columns

/-! ## Statements -/

/-- The placeholders of a statement, in the order of its text. -/
def Statement.numbers : Statement → List Nat
  | .select _ _ clauses _ _ _ => clauseNumbers clauses
  | .insert _ _ groups _ => groups.flatten
  | .update _ assignments clauses => assignments.map Prod.snd ++ clauseNumbers clauses
  | .delete _ clauses => clauseNumbers clauses
  | .count _ clauses => clauseNumbers clauses
  | .call _ params => params.map Prod.snd

/-- The clauses of a statement. -/
def Statement.clauses : Statement → List Clause
  | .select _ _ clauses _ _ _ => clauses
  | .insert _ _ _ _ => []
  | .update _ _ clauses => clauses
  | .delete _ clauses => clauses
  | .count _ clauses => clauses
  | .call _ _ => []

theorem isPlain_toString (n : Int) : IsPlain (toString n) := by
  have digits {m : Nat} : '$' ∉ Nat.toDigits 10 m := by
    intro h
    cases Numeral.isDigit_of_mem_toDigits h
  cases n with
  | ofNat m => simpa [IsPlain, Int.toString_eq_repr, Int.repr] using digits
  | negSucc m => simpa [IsPlain, Int.toString_eq_repr, Int.repr] using digits

/-- Plain text that may stand behind a placeholder. -/
structure IsTail (text : String) : Prop where
  plain : IsPlain text
  clear : StartsClear text.toList

theorem Shows.append_tail {a b : String} {ns : List Nat} (ha : Shows a ns) (hb : IsTail b) :
    Shows (a ++ b) ns := ha.append_plain hb.plain hb.clear

theorem IsTail.empty : IsTail "" := ⟨by decide, by decide⟩

theorem IsTail.append {a b : String} (ha : IsTail a) (hb : IsPlain b) (some : a ≠ "") :
    IsTail (a ++ b) := by
  refine ⟨ha.plain.append hb, fun c hc => ?_⟩
  cases start : a.toList with
  | nil => exact absurd (String.toList_eq_nil_iff.1 start) some
  | cons d rest =>
      have first := ha.clear
      rw [start] at first
      rw [String.toList_append, start] at hc
      exact first c hc

theorem isTail_orderText (order : Option (Identifier × Bool)) : IsTail (orderText order) := by
  cases order with
  | none => exact .empty
  | some order =>
      rcases order with ⟨column, ascending⟩
      have direction : IsPlain (if ascending then " ASC" else " DESC") := by split <;> decide
      have word : IsTail " ORDER BY " := ⟨by decide, by decide⟩
      rw [orderText, String.append_assoc]
      exact word.append (column.isPlain.append direction) (by decide)

theorem isTail_boundText (word : String) (plain : IsPlain word) (bound : Option Int) :
    IsTail (boundText word bound) := by
  cases bound with
  | none => exact .empty
  | some n =>
      have blank : IsTail " " := ⟨by decide, by decide⟩
      have rest : IsPlain (word ++ " " ++ toString n) :=
        (plain.append (by decide)).append (isPlain_toString n)
      have tail := blank.append rest (by decide)
      simpa only [boundText, String.append_assoc] using tail

theorem isTail_conflictText (conflict : Option Conflict) : IsTail (conflictText conflict) := by
  cases conflict with
  | none => exact .empty
  | some conflict =>
      have blank : IsTail " " := ⟨by decide, by decide⟩
      exact blank.append conflict.isPlain (by decide)

theorem isTail_returning : IsTail " RETURNING *" := ⟨by decide, by decide⟩

theorem shows_joined {head text : String} {numbers : List Nat} (plain : IsPlain head)
    (shown : Shows text numbers) : Shows (joined head text) numbers := by
  unfold joined
  split
  · rename_i empty
    have nothing : text = "" := by simpa using empty
    have none : numbers = [] := by
      have alone := shown [] (by decide)
      simpa [nothing, numeralsIn, piecesOf] using alone
    rw [none]
    exact plain.shows
  · exact (plain.append (by decide)).append_shows shown

/-- The text of a statement shows the placeholders of the statement, from left to right. -/
theorem Statement.shows_text {statement : Statement}
    (positive : ∀ clause ∈ statement.clauses, clause.IsNumberedFrom 0) :
    Shows statement.text statement.numbers := by
  cases statement with
  | select columns table clauses order limit offset =>
      have names : IsPlain (columnsText columns) := by
        cases columns with
        | none => decide
        | some names => exact isPlain_nameList names
      have head : IsPlain ("SELECT " ++ columnsText columns ++ " FROM " ++ table.text) :=
        ((IsPlain.append (by decide) names).append (by decide)).append table.isPlain
      have condition : Shows (joined _ (whereText clauses)) (clauseNumbers clauses) :=
        shows_joined head (shows_whereText positive)
      have ordered := condition.append_tail (isTail_orderText order)
      have limited := ordered.append_tail (isTail_boundText "LIMIT" (by decide) limit)
      exact limited.append_tail (isTail_boundText "OFFSET" (by decide) offset)
  | insert table columns groups conflict =>
      have head : IsPlain ("INSERT INTO " ++ table.text ++ " (" ++ nameList columns ++
          ") VALUES ") := by
        have named : IsPlain ("INSERT INTO " ++ table.text) :=
          IsPlain.append (by decide) table.isPlain
        exact ((named.append (by decide)).append (isPlain_nameList columns)).append (by decide)
      have rows := shows_intercalate ", " (by decide) (by decide) (by decide)
        fun group (_ : group ∈ groups) => shows_groupText group
      rw [List.flatMap_id'] at rows
      have filled : Shows (_ ++ commas (groups.map groupText)) groups.flatten :=
        head.append_shows rows
      exact (filled.append_tail (isTail_conflictText conflict)).append_tail isTail_returning
  | update table assignments clauses =>
      have head : IsPlain ("UPDATE " ++ table.text ++ " SET ") :=
        (IsPlain.append (by decide) table.isPlain).append (by decide)
      have assigned := head.append_shows (shows_pairs " = " (by decide) assignments)
      have spaced := assigned.append_plain (b := " ") (by decide) (by decide)
      have condition := shows_whereText positive
      have both := spaced.append condition (startsClear_whereText clauses)
      exact both.append_tail isTail_returning
  | delete table clauses =>
      have head : IsPlain ("DELETE FROM " ++ table.text ++ " ") :=
        (IsPlain.append (by decide) table.isPlain).append (by decide)
      exact (head.append_shows (shows_whereText positive)).append_tail isTail_returning
  | count table clauses =>
      have head : IsPlain ("SELECT COUNT(*) FROM " ++ table.text) :=
        IsPlain.append (by decide) table.isPlain
      exact shows_joined head (shows_whereText positive)
  | call function params =>
      have head : IsPlain ("SELECT " ++ function.text ++ "(") :=
        (IsPlain.append (by decide) function.isPlain).append (by decide)
      have named := head.append_shows (shows_pairs " => " (by decide) params)
      exact named.append_plain (by decide) (by decide)

end DataGateway.Sql
