import DataGateway.Proofs.Relational.Discipline

/-!
# What the driver makes of a format

The driver goes through a format from left to right: a doubled percent sign is one percent sign, `%s`
takes the next argument, and every other use of the sign is an error. What it makes of the driver's form
of a text is the text itself with an argument in the place of every placeholder.

* `Occurs`, `Filled` — a placeholder in a text, and the text with its arguments filled in;
* `Cut`, `cut_piecesOf` — a text cut into its pieces;
* `expand` — what the driver makes of a format with arguments;
* `driverForm_expands` — the driver's form of a text says what the text says;
* `driverForm_longNumeral` — a placeholder with too many digits has no form, although it names an
  argument.
-/

namespace DataGateway.Relational

open Sql Text

variable {α : Type}

/-! ## Placeholders in their places -/

/-- Do the digits make a placeholder in a text: all the digits behind a dollar sign, at least one? -/
def Occurs (digits s : List Char) : Prop :=
  digits ≠ [] ∧ (∀ c ∈ digits, isDecimalDigit c = true) ∧
    ∃ front back, s = front ++ '$' :: (digits ++ back) ∧ StartsClear back

/-- A text with arguments in the places of its placeholders, every other character standing for
itself. -/
inductive Filled (arguments : List α) : List Char → List (Char ⊕ α) → Prop
  | nil : Filled arguments [] []
  | char {c : Char} {rest : List Char} {items : List (Char ⊕ α)} :
      (c = '$' → StartsClear rest) → Filled arguments rest items →
      Filled arguments (c :: rest) (.inl c :: items)
  | argument {digits rest : List Char} {a : α} {items : List (Char ⊕ α)} :
      digits ≠ [] → (∀ c ∈ digits, isDecimalDigit c = true) → StartsClear rest →
      numeralValue digits ≠ 0 → arguments[numeralValue digits - 1]? = some a →
      Filled arguments rest items →
      Filled arguments ('$' :: (digits ++ rest)) (.inr a :: items)

/-! ## Pieces of a text -/

/-- The pieces that a text is cut into. -/
inductive Cut : List Char → List Piece → Prop
  | nil : Cut [] []
  | char {c : Char} {rest : List Char} {pieces : List Piece} :
      (c = '$' → StartsClear rest) → Cut rest pieces → Cut (c :: rest) (.char c :: pieces)
  | placeholder {digits rest : List Char} {pieces : List Piece} :
      digits ≠ [] → (∀ c ∈ digits, isDecimalDigit c = true) → StartsClear rest → Cut rest pieces →
      Cut ('$' :: (digits ++ rest)) (.placeholder digits :: pieces)

/-- Every text begins with digits, which may be none, and goes on without. -/
theorem exists_digits (s : List Char) : ∃ digits rest, s = digits ++ rest ∧
    (∀ c ∈ digits, isDecimalDigit c = true) ∧ StartsClear rest := by
  refine ⟨s.takeWhile isDecimalDigit, s.dropWhile isDecimalDigit, ?_, ?_, ?_⟩
  · exact List.takeWhile_append_dropWhile.symm
  · exact fun c member => List.mem_takeWhile_imp member
  · intro c first
    have stopped := List.head?_dropWhile_not isDecimalDigit s
    rw [first] at stopped
    simpa using stopped

theorem cut_piecesOf (s : List Char) : Cut s (piecesOf s) := by
  -- induction on the length, since a placeholder goes with all of its digits
  induction length : s.length using Nat.strongRecOn generalizing s with
  | ind n ih =>
      cases s with
      | nil => exact .nil
      | cons c s =>
          by_cases dollar : c = '$'
          · rcases exists_digits s with ⟨digits, rest, rfl, decimal, clear⟩
            have shorter : rest.length < n := by
              rw [← length, List.length_cons, List.length_append]
              omega
            have others := ih rest.length shorter rest rfl
            subst dollar
            by_cases none : digits = []
            · subst none
              have alone : piecesOf ('$' :: rest) = .char '$' :: piecesOf rest := by
                simp [piecesOf, takeWhile_piecesOf clear]
              rw [List.nil_append, alone]
              exact .char (fun _ => clear) others
            · rw [piecesOf_placeholder decimal none clear]
              exact .placeholder none decimal clear others
          · have shorter : s.length < n := by
              rw [← length, List.length_cons]
              exact Nat.lt_succ_self _
            rw [piecesOf_cons dollar]
            exact .char (absurd · dollar) (ih s.length shorter s rfl)

/-! ## Occurrences -/

theorem Occurs.cons {digits s : List Char} (occurs : Occurs digits s) (c : Char) :
    Occurs digits (c :: s) := by
  rcases occurs with ⟨some, decimal, front, back, rfl, clear⟩
  exact ⟨some, decimal, c :: front, back, rfl, clear⟩

/-- A text without dollar signs adds no placeholder to what follows it. -/
theorem occurs_append_iff {digits plain s : List Char} (free : '$' ∉ plain) :
    Occurs digits (plain ++ s) ↔ Occurs digits s := by
  induction plain with
  | nil => rfl
  | cons c plain ih =>
      rcases not_or.1 (mt List.mem_cons.2 free) with ⟨other, others⟩
      rw [← ih others]
      constructor
      · rintro ⟨some, decimal, front, back, same, clear⟩
        cases front with
        | nil => exact absurd (List.cons.inj same).1.symm other
        | cons d front => exact ⟨some, decimal, front, back, (List.cons.inj same).2, clear⟩
      · exact fun occurs => occurs.cons c

/-- Digits end where a text goes on without. -/
theorem digits_unique {digits others rest back : List Char}
    (decimal : ∀ c ∈ digits, isDecimalDigit c = true) (clear : StartsClear rest)
    (decimal' : ∀ c ∈ others, isDecimalDigit c = true) (clear' : StartsClear back)
    (same : digits ++ rest = others ++ back) : digits = others := by
  have whole {run tail : List Char} (all : ∀ c ∈ run, isDecimalDigit c = true)
      (ends : StartsClear tail) : (run ++ tail).takeWhile isDecimalDigit = run := by
    rw [List.takeWhile_append_of_pos all]
    cases tail with
    | nil => simp
    | cons c tail =>
        have stops : isDecimalDigit c = false := ends c rfl
        simp [stops]
  rw [← whole decimal clear, same, whole decimal' clear']

/-- The placeholders that a text is cut into are those that occur in it. -/
theorem mem_numeralsIn_iff {digits s : List Char} : digits ∈ numeralsIn s ↔ Occurs digits s := by
  have cut := cut_piecesOf s
  unfold numeralsIn
  generalize piecesOf s = pieces at cut
  induction cut with
  | nil =>
      constructor
      · intro none
        cases none
      · rintro ⟨_, _, front, back, same, _⟩
        cases front <;> cases same
  | @char c rest pieces unmarked _ ih =>
      refine Iff.trans ih ⟨?_, ?_⟩
      · exact fun occurs => occurs.cons c
      · rintro ⟨some, decimal, front, back, same, clear⟩
        cases front with
        | nil =>
            rcases List.cons.inj same with ⟨dollar, behind⟩
            -- digits stand behind this character, so it is no dollar sign
            rcases List.exists_cons_of_ne_nil some with ⟨d, digits, rfl⟩
            have first : isDecimalDigit d = false := unmarked dollar d (by rw [behind]; rfl)
            rw [decimal d (List.mem_cons_self ..)] at first
            cases first
        | cons d front => exact ⟨some, decimal, front, back, (List.cons.inj same).2, clear⟩
  | @placeholder own rest pieces some decimal clear _ ih =>
      have later : Occurs digits rest ↔ Occurs digits (own ++ rest) :=
        (occurs_append_iff (not_mem_of_decimal decimal)).symm
      refine List.mem_cons.trans (Iff.trans (or_congr_right (ih.trans later)) ⟨?_, ?_⟩)
      · rintro (rfl | occurs)
        · exact ⟨some, decimal, [], rest, rfl, clear⟩
        · exact occurs.cons '$'
      · rintro ⟨some', decimal', front, back, same, clear'⟩
        cases front with
        | nil =>
            have behind := (List.cons.inj same).2
            exact .inl (digits_unique decimal clear decimal' clear' behind).symm
        | cons d front =>
            exact .inr ⟨some', decimal', front, back, (List.cons.inj same).2, clear'⟩

theorem isOverlong_iff {text : String} : IsOverlong text ↔
    ∃ digits, Occurs digits text.toList ∧ Numeral.digitLimit < digits.length := by
  simp only [IsOverlong, mem_numeralsIn_iff]

theorem strays_iff {text : String} {count : Nat} : Strays text count ↔
    ∃ digits, Occurs digits text.toList ∧ (numeralValue digits = 0 ∨ count < numeralValue digits) := by
  simp only [Strays, mem_numeralsIn_iff]

/-! ## Expansion -/

/-- What the driver makes of a format, and the arguments that it does not get to. -/
def expand : List Char → List α → Option (List (Char ⊕ α) × List α)
  | [], arguments => some ([], arguments)
  | '%' :: '%' :: rest, arguments =>
    (expand rest arguments).map fun (items, left) => (.inl '%' :: items, left)
  | '%' :: 's' :: rest, a :: arguments =>
    (expand rest arguments).map fun (items, left) => (.inr a :: items, left)
  | '%' :: _, _ => none
  | c :: rest, arguments =>
    (expand rest arguments).map fun (items, left) => (.inl c :: items, left)

section Expansion

variable {format : List Char} {arguments left : List α} {items : List (Char ⊕ α)}

theorem expand_char (expands : expand format arguments = some (items, left)) (c : Char) :
    expand ((Piece.char c).formatted ++ format) arguments = some (.inl c :: items, left) := by
  by_cases percent : c = '%'
  · subst percent
    have doubled : (Piece.char '%').formatted ++ format = '%' :: '%' :: format := rfl
    rw [doubled, expand, expands]
    rfl
  · have alone : (Piece.char c).formatted ++ format = c :: format := by
      simp [Piece.formatted, percent]
    have passed : expand (c :: format) arguments =
        (expand format arguments).map fun (items, left) => (.inl c :: items, left) := by
      simp [expand, percent]
    rw [alone, passed, expands]
    rfl

theorem expand_placeholder (expands : expand format arguments = some (items, left))
    (digits : List Char) (a : α) :
    expand ((Piece.placeholder digits).formatted ++ format) (a :: arguments) =
      some (.inr a :: items, left) := by
  have marker : (Piece.placeholder digits).formatted ++ format = '%' :: 's' :: format := rfl
  rw [marker, expand, expands]
  rfl

end Expansion

/-- The arguments that pieces name, in order. -/
def taken (arguments : List α) (pieces : List Piece) : List α :=
  (pieces.filterMap Piece.digits?).filterMap fun digits => arguments[numeralValue digits - 1]?

/-- Formatted pieces expand to the text that was cut, with its arguments filled in. -/
theorem Cut.expands {arguments : List α} {s : List Char} {pieces : List Piece} (cut : Cut s pieces)
    (within : ∀ digits ∈ pieces.filterMap Piece.digits?,
      numeralValue digits ≠ 0 ∧ numeralValue digits ≤ arguments.length) :
    ∃ items, Filled arguments s items ∧
      expand (pieces.flatMap Piece.formatted) (taken arguments pieces) = some (items, []) := by
  induction cut with
  | nil => exact ⟨[], .nil, rfl⟩
  | @char c rest pieces unmarked _ ih =>
      rcases ih within with ⟨items, filled, expands⟩
      exact ⟨.inl c :: items, .char unmarked filled, expand_char expands c⟩
  | @placeholder digits rest pieces some decimal clear _ ih =>
      have named : (Piece.placeholder digits :: pieces).filterMap Piece.digits? =
          digits :: pieces.filterMap Piece.digits? := rfl
      rw [named] at within
      rcases List.forall_mem_cons.1 within with ⟨⟨nonzero, bounded⟩, others⟩
      rcases ih others with ⟨items, filled, expands⟩
      -- the number counts from one, and the places of the arguments from zero
      have place : numeralValue digits - 1 < arguments.length := by omega
      have there := List.getElem?_eq_getElem place
      have first : taken arguments (.placeholder digits :: pieces) =
          arguments[numeralValue digits - 1] :: taken arguments pieces := by
        rw [taken, named]
        exact List.filterMap_cons_some there
      refine ⟨_, .argument some decimal clear nonzero there filled, ?_⟩
      rw [first]
      exact expand_placeholder expands digits _

/-! ## The driver's form -/

/-- A text with a placeholder of too many digits is not read. Any other is refused exactly if one of
its placeholders has no argument, and else the driver makes the text of its form again, with an argument
in the place of every placeholder, uses all the arguments that come with the form and meets no other
percent sign. -/
theorem driverForm_expands (text : String) (arguments : List α) :
    ((∃ digits, Occurs digits text.toList ∧ Numeral.digitLimit < digits.length) →
      ∃ length, driverForm text arguments = .error (.misuse (.wholeTooLong length))) ∧
    (¬(∃ digits, Occurs digits text.toList ∧ Numeral.digitLimit < digits.length) →
      (driverForm text arguments = .error (.refused (.placeholder arguments.length)) ↔
        ∃ digits, Occurs digits text.toList ∧
          (numeralValue digits = 0 ∨ arguments.length < numeralValue digits)) ∧
      (¬(∃ digits, Occurs digits text.toList ∧
          (numeralValue digits = 0 ∨ arguments.length < numeralValue digits)) →
        ∃ format given items, driverForm text arguments = .ok (format, given) ∧
          Filled arguments text.toList items ∧
          expand format.toList given = some (items, []))) := by
  simp only [← isOverlong_iff, ← strays_iff]
  refine ⟨driverForm_of_isOverlong, fun short => ⟨⟨?_, driverForm_of_strays short⟩, fun within => ?_⟩⟩
  · intro refused
    by_contra within
    rw [driverForm_of_within short within] at refused
    cases refused
  · have named : ∀ digits ∈ numeralsIn text.toList,
        numeralValue digits ≠ 0 ∧ numeralValue digits ≤ arguments.length := by
      intro digits member
      have inside := not_or.1 fun outside => within ⟨digits, member, outside⟩
      exact ⟨inside.1, Nat.not_lt.1 inside.2⟩
    rcases (cut_piecesOf text.toList).expands named with ⟨items, filled, expands⟩
    refine ⟨_, _, items, driverForm_of_within short within, filled, ?_⟩
    rw [String.toList_ofList]
    exact expands

example : driverForm "5%$2$1s$2" ["a", "b"] = .ok ("5%%%s%ss%s", ["b", "a", "b"]) := rfl

/-- The placeholder names the only argument, and still the text has no form. -/
theorem driverForm_longNumeral :
    Occurs (paddedOne Numeral.digitLimit) longNumeral.command.text.toList ∧
      (∀ digits, Occurs digits longNumeral.command.text.toList → numeralValue digits = 1) ∧
      longNumeral.command.arguments.length = 1 ∧
      ∀ form, driverForm longNumeral.command.text longNumeral.command.arguments ≠ .ok form := by
  have shown : numeralsIn longNumeral.command.text.toList = [paddedOne Numeral.digitLimit] :=
    numeralsIn_select (by simp [paddedOne]) isDigit_paddedOne
  have only (digits : List Char) : Occurs digits longNumeral.command.text.toList ↔
      digits = paddedOne Numeral.digitLimit := by
    rw [← mem_numeralsIn_iff, shown, List.mem_singleton]
  refine ⟨(only _).2 rfl, ?_, rfl, ?_⟩
  · intro digits occurs
    rw [(only digits).1 occurs, numeralValue, Numeral.map_simplify_of_digits isDigit_paddedOne,
      digitsValue_paddedOne]
  · intro form formed
    have long : IsOverlong longNumeral.command.text :=
      ⟨paddedOne Numeral.digitLimit, by simp [shown], by simp [paddedOne]⟩
    have stops : ∃ length, driverForm longNumeral.command.text longNumeral.command.arguments = _ :=
      driverForm_of_isOverlong long
    rcases stops with ⟨length, stops⟩
    rw [formed] at stops
    cases stops

end DataGateway.Relational
