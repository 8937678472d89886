import DataGateway.Proofs.Except
import DataGateway.Proofs.Sql.Placeholders

/-!
# Numerals of placeholders

The numbers that the placeholders of any text stand for, in digits of any script, and what it takes
for a text to have a driver's form.

* `numeralValue` — the number of a placeholder;
* `Strays`, `IsOverlong` — a placeholder has no argument, or too many digits to be read;
* `exists_driverForm_error_iff` — these are all the reasons to refuse a text.
-/

namespace DataGateway.Sql

open Text

/-! ## Digits of any script -/

/-- No block of digits holds a blank. -/
theorem digitZeros_apart : ∀ first ∈ digitZeros, first = 0x30 ∨
    (0xA0 < first ∧ first + 10 ≤ 0x1680) ∨ (0x1680 < first ∧ first + 10 ≤ 0x2000) ∨
      0x3000 < first := by
  decide

/-- A digit outside of the first 128 characters has a place in a block. -/
theorem exists_digitZero {c : Char} (digit : isDecimalDigit c = true) (wide : ¬c.toNat < 0x80) :
    ∃ first ∈ digitZeros, first ≤ c.toNat ∧ c.toNat < first + 10 ∧
      digitValue? c = some (c.toNat - first) := by
  have found : (digitZeros.find? fun first => first ≤ c.toNat && c.toNat < first + 10).isSome = true := by
    simpa [isDecimalDigit, digitValue?, wide] using digit
  rcases Option.isSome_iff_exists.1 found with ⟨first, block⟩
  have within : first ≤ c.toNat ∧ c.toNat < first + 10 := by
    simpa using List.find?_some block
  exact ⟨first, List.mem_of_find?_eq_some block, within.1, within.2, by
    simp [digitValue?, wide, block]⟩

theorem isDigit_latinDigit : ∀ value < 10, Numeral.isDigit (latinDigit value) = true := by
  decide

theorem isDigit_simplify {c : Char} (digit : isDecimalDigit c = true) :
    Numeral.isDigit (Numeral.simplify c) = true := by
  by_cases narrow : c.toNat < 0x80
  · -- among the first 128 characters only the plain digits count
    have plain : '0' ≤ c ∧ c ≤ '9' := by
      simpa [isDecimalDigit, digitValue?, narrow] using digit
    have isDigit : Numeral.isDigit c = true := by simpa [Numeral.isDigit] using plain
    simpa [Numeral.simplify_of_isDigit isDigit] using isDigit
  · rcases exists_digitZero digit narrow with ⟨first, block, low, high, value⟩
    have apart := digitZeros_apart first block
    have filled : isBlank c = false := by
      simp [isBlank]
      omega
    have other : ¬c.toNat < 127 := by omega
    have small : c.toNat - first < 10 := by omega
    simpa [Numeral.simplify, other, filled, value] using isDigit_latinDigit _ small

/-! ## Reading of one placeholder -/

/-- The number that digits of any script stand for. -/
def numeralValue (digits : List Char) : Nat := Numeral.digitsValue (digits.map Numeral.simplify)

section Digits

variable {digits : List Char} (decimal : ∀ c ∈ digits, isDecimalDigit c = true)

include decimal

theorem isDigit_of_mem_map_simplify : ∀ c ∈ digits.map Numeral.simplify, Numeral.isDigit c = true := by
  intro c hc
  rcases List.mem_map.1 hc with ⟨d, hd, rfl⟩
  exact isDigit_simplify (decimal d hd)

/-- Digits of any script are read as the plain ones in their places. -/
theorem whole_map_simplify :
    Numeral.whole digits = Numeral.whole (digits.map Numeral.simplify) := by
  have plain := Numeral.map_simplify_of_digits (isDigit_of_mem_map_simplify decimal)
  have same : Numeral.prepare digits = Numeral.prepare (digits.map Numeral.simplify) := by
    simp only [Numeral.prepare, plain]
  simp only [Numeral.whole, same]

theorem placeholderNumber_of_decimal (some : digits ≠ []) :
    placeholderNumber digits =
      if Numeral.digitLimit < digits.length then .error (.misuse (.wholeTooLong digits.length))
      else .ok (numeralValue digits) := by
  have read := Numeral.whole_of_digits (isDigit_of_mem_map_simplify decimal) (by simpa using some)
  simp only [placeholderNumber, Value.readWhole, whole_map_simplify decimal, read, List.length_map]
  by_cases long : Numeral.digitLimit < digits.length
  · simp [long]
  · simp [long, numeralValue]

end Digits

/-! ## Reading of all placeholders -/

/-- Does a placeholder consist of digits, at least one? -/
def Piece.IsDecimal : Piece → Prop
  | placeholder digits => digits ≠ [] ∧ ∀ c ∈ digits, isDecimalDigit c = true
  | char _ => True

theorem exists_char_of_isDigit {piece : Piece} (h : piece.isDigit = true) :
    ∃ c, piece = .char c ∧ isDecimalDigit c = true := by
  cases piece with
  | placeholder digits => cases h
  | char c => exact ⟨c, rfl, h⟩

/-- A run of digits makes a placeholder. -/
theorem isDecimal_placeholder {run : List Piece} (digits : ∀ piece ∈ run, piece.isDigit = true)
    (some : run ≠ []) : (Piece.placeholder (run.filterMap Piece.char?)).IsDecimal := by
  constructor
  · rcases List.exists_cons_of_ne_nil some with ⟨piece, rest, rfl⟩
    rcases exists_char_of_isDigit (digits piece (List.mem_cons_self ..)) with ⟨c, rfl, _⟩
    simp [Piece.char?]
  · intro c hc
    rcases List.mem_filterMap.1 hc with ⟨piece, hp, given⟩
    rcases exists_char_of_isDigit (digits piece hp) with ⟨d, rfl, decimal⟩
    cases given
    exact decimal

theorem isDecimal_of_mem_piecesOf {s : List Char} : ∀ piece ∈ piecesOf s, piece.IsDecimal := by
  induction s with
  | nil =>
      intro piece hp
      cases hp
  | cons c s ih =>
      intro piece hp
      simp only [piecesOf] at hp
      split at hp
      · rename_i marked
        have run : (piecesOf s).takeWhile Piece.isDigit ≠ [] := by
          simpa using (Bool.and_eq_true_iff.1 marked).2
        rcases List.mem_cons.1 hp with rfl | later
        · exact isDecimal_placeholder (fun p hp => List.mem_takeWhile_imp hp) run
        · exact ih piece ((List.dropWhile_sublist _).subset later)
      · rcases List.mem_cons.1 hp with rfl | later
        · trivial
        · exact ih piece later

theorem placeholderNumbers_of_short {pieces : List Piece} (decimal : ∀ piece ∈ pieces, piece.IsDecimal)
    (short : ∀ digits ∈ pieces.filterMap Piece.digits?, digits.length ≤ Numeral.digitLimit) :
    placeholderNumbers pieces =
      .ok ((pieces.filterMap Piece.digits?).map fun digits => (numeralValue digits : Int)) := by
  induction pieces with
  | nil => rfl
  | cons piece pieces ih =>
      have others := fun p hp => decimal p (List.mem_cons_of_mem piece hp)
      cases piece with
      | char c => exact ih others short
      | placeholder digits =>
          have own : digits ≠ [] ∧ ∀ c ∈ digits, isDecimalDigit c = true :=
            decimal _ (List.mem_cons_self ..)
          have first : placeholderNumber digits = .ok (numeralValue digits : Int) := by
            have fits : ¬Numeral.digitLimit < digits.length :=
              Nat.not_lt.2 (short digits (by simp [Piece.digits?]))
            simpa [fits] using placeholderNumber_of_decimal own.2 own.1
          have rest := ih others fun d hd => short d (by
            simp only [List.filterMap_cons, Piece.digits?]
            exact List.mem_cons_of_mem digits hd)
          simp [placeholderNumbers, first, rest, bind, Except.bind, pure, Except.pure, Piece.digits?]

/-- The first placeholder that is too long is the one that stops the reading. -/
theorem placeholderNumbers_of_long {pieces : List Piece} (decimal : ∀ piece ∈ pieces, piece.IsDecimal)
    (long : ∃ digits ∈ pieces.filterMap Piece.digits?, Numeral.digitLimit < digits.length) :
    ∃ length, placeholderNumbers pieces = .error (.misuse (.wholeTooLong length)) := by
  -- induction on the pieces; what stands before the first long placeholder is read
  induction pieces with
  | nil =>
      rcases long with ⟨digits, none, _⟩
      cases none
  | cons piece pieces ih =>
      have others := fun p hp => decimal p (List.mem_cons_of_mem piece hp)
      cases piece with
      | char c => exact ih others long
      | placeholder digits =>
          have own : digits ≠ [] ∧ ∀ c ∈ digits, isDecimalDigit c = true :=
            decimal _ (List.mem_cons_self ..)
          have read := placeholderNumber_of_decimal own.2 own.1
          by_cases here : Numeral.digitLimit < digits.length
          · rw [if_pos here] at read
            exact ⟨digits.length, by simp [placeholderNumbers, read, bind, Except.bind]⟩
          · rw [if_neg here] at read
            have later : ∃ d ∈ pieces.filterMap Piece.digits?, Numeral.digitLimit < d.length := by
              rcases long with ⟨d, hd, exceeds⟩
              have place : d = digits ∨ d ∈ pieces.filterMap Piece.digits? := by
                simpa only [List.filterMap_cons, Piece.digits?, List.mem_cons] using hd
              rcases place with rfl | later
              · exact absurd exceeds here
              · exact ⟨d, later, exceeds⟩
            rcases ih others later with ⟨length, stops⟩
            exact ⟨length, by simp [placeholderNumbers, read, stops, bind, Except.bind]⟩

/-! ## Texts with a driver's form -/

/-- Has a text a placeholder with more digits than can be read? -/
def IsOverlong (text : String) : Prop :=
  ∃ digits ∈ numeralsIn text.toList, Numeral.digitLimit < digits.length

/-- Has a text a placeholder for which there is no argument? -/
def Strays (text : String) (count : Nat) : Prop :=
  ∃ digits ∈ numeralsIn text.toList, numeralValue digits = 0 ∨ count < numeralValue digits

section DriverForm

variable {α : Type} {text : String} {arguments : List α}

theorem driverForm_of_isOverlong (long : IsOverlong text) :
    ∃ length, driverForm text arguments = .error (.misuse (.wholeTooLong length)) := by
  rcases placeholderNumbers_of_long isDecimal_of_mem_piecesOf long with ⟨length, stops⟩
  exact ⟨length, by simp [driverForm, stops, bind, Except.bind]⟩

/-- The numbers of a text all name an argument, unless one strays. -/
theorem any_outside_iff :
    (((numeralsIn text.toList).map fun digits => (numeralValue digits : Int)).any
        fun n => n < 1 || (arguments.length : Int) < n) = true ↔ Strays text arguments.length := by
  rw [List.any_map, List.any_eq_true]
  apply exists_congr
  intro digits
  apply and_congr_right
  intro _
  simp only [Function.comp_apply, Bool.or_eq_true, decide_eq_true_eq]
  omega

theorem driverForm_of_strays (short : ¬IsOverlong text) (strays : Strays text arguments.length) :
    driverForm text arguments = .error (.refused (.placeholder arguments.length)) := by
  have fits : ∀ digits ∈ numeralsIn text.toList, digits.length ≤ Numeral.digitLimit :=
    fun digits hd => Nat.not_lt.1 fun exceeds => short ⟨digits, hd, exceeds⟩
  have numbers := placeholderNumbers_of_short isDecimal_of_mem_piecesOf fits
  have outside := any_outside_iff.2 strays
  unfold numeralsIn at outside
  simp only [driverForm, numbers, bind, Except.bind, outside]
  rfl

/-- The form has the arguments in the order in which the placeholders name them. -/
theorem driverForm_of_within (short : ¬IsOverlong text) (within : ¬Strays text arguments.length) :
    driverForm text arguments = .ok (String.ofList ((piecesOf text.toList).flatMap Piece.formatted),
      (numeralsIn text.toList).filterMap fun digits => arguments[numeralValue digits - 1]?) := by
  have fits : ∀ digits ∈ numeralsIn text.toList, digits.length ≤ Numeral.digitLimit :=
    fun digits hd => Nat.not_lt.1 fun exceeds => short ⟨digits, hd, exceeds⟩
  have numbers := placeholderNumbers_of_short isDecimal_of_mem_piecesOf fits
  have inside := mt any_outside_iff.1 within
  have named : ((numeralsIn text.toList).map fun digits => (numeralValue digits : Int)).filterMap
      (fun n => arguments[n.toNat - 1]?) =
        (numeralsIn text.toList).filterMap fun digits => arguments[numeralValue digits - 1]? := by
    rw [List.filterMap_map]
    rfl
  unfold numeralsIn at inside named
  simp only [driverForm, numbers, bind, Except.bind, inside, named]
  rfl

theorem exists_driverForm (short : ¬IsOverlong text) (within : ¬Strays text arguments.length) :
    ∃ form, driverForm text arguments = .ok form :=
  ⟨_, driverForm_of_within short within⟩

/-- A text is refused when one of its placeholders has no argument, or cannot be read. -/
theorem exists_driverForm_error_iff :
    (∃ fault, driverForm text arguments = .error fault) ↔
      Strays text arguments.length ∨ IsOverlong text := by
  constructor
  · rintro ⟨fault, refused⟩
    by_contra fine
    rcases exists_driverForm (fun long => fine (.inr long)) (fun strays => fine (.inl strays)) with
      ⟨form, formed⟩
    rw [refused] at formed
    cases formed
  · intro reason
    by_cases long : IsOverlong text
    · have stops : ∃ length, driverForm text arguments = .error (.misuse (.wholeTooLong length)) :=
        driverForm_of_isOverlong long
      rcases stops with ⟨length, stops⟩
      exact ⟨_, stops⟩
    · exact ⟨_, driverForm_of_strays long (reason.resolve_right long)⟩

end DriverForm

end DataGateway.Sql
