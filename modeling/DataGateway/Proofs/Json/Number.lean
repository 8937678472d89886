import DataGateway.Json.Decode
import DataGateway.Json.Encode
import DataGateway.Proofs.Number.Decimal

/-!
# Numbers are read back

A whole number is read back from its digits, and a binary64 number from the fewest digits that are
enough, wherever the point stands among them. What follows a number in a document does not go on with
it, so the reader stops where the writer did.

* `EndsNumber` — the characters that follow are no part of a number;
* `scanNumber_whole` — digits without a point or an exponent;
* `scanNumber_layout` — significant digits in each of the four layouts;
* `scanNumber_text` — a magnitude.
-/

namespace DataGateway

open Numeral

/-! ## Digits -/

theorem Numeral.digitsValue_eq (digits : List Char) :
    digitsValue digits = Nat.ofDigitChars 10 digits 0 := by
  simp [digitsValue, Nat.ofDigitChars_eq_foldl, Nat.mul_comm]

theorem Numeral.digitsValue_append_zeros (digits : List Char) (zeros : Nat) :
    digitsValue (digits ++ List.replicate zeros '0') = digitsValue digits * power 10 zeros := by
  simp only [digitsValue_eq, Nat.ofDigitChars_append, Nat.ofDigitChars_replicate_zero, power_eq]
  exact Nat.mul_comm _ _

theorem Numeral.digitsValue_zeros_append (zeros : Nat) (digits : List Char) :
    digitsValue (List.replicate zeros '0' ++ digits) = digitsValue digits := by
  simp [digitsValue_eq, Nat.ofDigitChars_append, Nat.ofDigitChars_replicate_zero]

/-- The first digit of a positive number is not zero. -/
theorem head?_toDigits {n : Nat} (pos : 0 < n) : (Nat.toDigits 10 n).head? ≠ some '0' := by
  induction n using Nat.strongRecOn with
  | ind n ih =>
      rcases Nat.lt_or_ge n 10 with small | large
      · have all : ∀ n < 10, 0 < n → n.digitChar ≠ '0' := by decide
        rw [Nat.toDigits_of_lt_base small]
        simpa using all n small pos
      · have shorter := ih (n / 10) (by omega) (by omega)
        rw [Nat.toDigits_of_base_le (by decide) large, List.head?_append]
        cases first : (Nat.toDigits 10 (n / 10)).head? with
        | none => exact absurd (List.head?_eq_none_iff.1 first) Nat.toDigits_ne_nil
        | some c =>
            rw [first] at shorter
            simpa using shorter

/-- Digits are the significant ones and the zeros behind them. -/
theorem Decimal.exists_significant (d : Decimal) : ∃ zeros,
    decimalDigits d.digits = d.significant ++ List.replicate zeros '0' := by
  let reversed := (decimalDigits d.digits).reverse
  have parts : reversed.takeWhile (· = '0') ++ reversed.dropWhile (· = '0') = reversed :=
    List.takeWhile_append_dropWhile
  have zeros : reversed.takeWhile (· = '0') =
      List.replicate (reversed.takeWhile (· = '0')).length '0' := by
    refine List.eq_replicate_of_mem fun c member => ?_
    simpa using List.mem_takeWhile_imp member
  refine ⟨(reversed.takeWhile (· = '0')).length, ?_⟩
  calc
    decimalDigits d.digits = reversed.reverse := (List.reverse_reverse _).symm
    _ = (reversed.takeWhile (· = '0') ++ reversed.dropWhile (· = '0')).reverse := by rw [parts]
    _ = d.significant ++ (reversed.takeWhile (· = '0')).reverse := List.reverse_append
    _ = d.significant ++ List.replicate (reversed.takeWhile (· = '0')).length '0' := by
          rw [zeros, List.reverse_replicate, List.length_replicate]

/-- Are these significant digits of a positive number? -/
structure Leads (digits : List Char) : Prop where
  plain : ∀ c ∈ digits, isDigit c = true
  some : digits ≠ []
  first : digits.head? ≠ .some '0'

theorem leads_decimalDigits {n : Nat} (pos : 0 < n) : Leads (decimalDigits n) where
  plain _ member := isDigit_of_mem_toDigits member
  some := Nat.toDigits_ne_nil
  first := head?_toDigits pos

theorem Decimal.leads_significant {d : Decimal} (some : d.digits ≠ 0) : Leads d.significant := by
  rcases d.exists_significant with ⟨zeros, parts⟩
  have whole := leads_decimalDigits (Nat.pos_of_ne_zero some)
  rw [parts] at whole
  have present : d.significant ≠ [] := by
    intro none
    have value : digitsValue (decimalDigits d.digits) = d.digits := digitsValue_toDigits d.digits
    have only : decimalDigits d.digits = List.replicate zeros '0' := by
      simpa [none] using parts
    rw [only, ← List.append_nil (List.replicate zeros '0'), digitsValue_zeros_append] at value
    exact some value.symm
  refine ⟨fun c member => whole.plain c (List.mem_append_left _ member), present, ?_⟩
  have first := whole.first
  cases leading : d.significant with
  | nil => exact absurd leading present
  | cons c rest => simpa [leading] using first

/-- The zeros that are not significant count as part of the exponent. -/
theorem Decimal.toBinary64_significant (d : Decimal) (negative : Bool) :
    (⟨digitsValue d.significant, d.scale - d.significant.length⟩ : Decimal).toBinary64 negative =
      d.toBinary64 negative := by
  rcases d.exists_significant with ⟨zeros, parts⟩
  have value : digitsValue d.significant * power 10 zeros = d.digits := by
    rw [← digitsValue_append_zeros, ← parts]
    exact digitsValue_toDigits d.digits
  have places : d.scale - d.significant.length = d.exponent + zeros := by
    simp only [Decimal.scale, parts, List.length_append, List.length_replicate]
    omega
  rw [places, ← toBinary64_shift, value]

/-! ## The end of a number -/

/-- Do characters not go on with a number? -/
def EndsNumber (rest : List Char) : Prop :=
  ∀ c ∈ rest.head?, isDigit c = false ∧ c ≠ '.' ∧ c ≠ 'e' ∧ c ≠ 'E'

theorem endsNumber_nil : EndsNumber [] := nofun

theorem endsNumber_cons {c : Char} (rest : List Char)
    (h : isDigit c = false ∧ c ≠ '.' ∧ c ≠ 'e' ∧ c ≠ 'E') : EndsNumber (c :: rest) := by
  intro d first
  cases first
  exact h

namespace Json

variable {rest : List Char}

section Scanning

variable {digits : List Char} (plain : ∀ c ∈ digits, isDigit c = true)
  (ends : ∀ c ∈ rest.head?, isDigit c = false)

include plain ends

theorem takeWhile_digits : (digits ++ rest).takeWhile isDigit = digits := by
  rw [List.takeWhile_append_of_pos plain]
  cases rest with
  | nil => simp
  | cons c rest => simp [ends c rfl]

theorem dropWhile_digits : (digits ++ rest).dropWhile isDigit = rest := by
  rw [List.dropWhile_append_of_pos plain]
  cases rest with
  | nil => simp
  | cons c rest => simp [ends c rfl]

end Scanning

theorem not_digit_of_endsNumber (ends : EndsNumber rest) : ∀ c ∈ rest.head?, isDigit c = false :=
  fun c first => (ends c first).1

/-- Digits that do not begin with zero are one whole number. -/
theorem scanWhole_leads {digits : List Char} (leads : Leads digits)
    (ends : ∀ c ∈ rest.head?, isDigit c = false) :
    scanWhole (digits ++ rest) = some (digits, rest) := by
  cases digits with
  | nil => exact absurd rfl leads.some
  | cons c digits =>
      have later : ∀ d ∈ digits, isDigit d = true :=
        fun d member => leads.plain d (List.mem_cons_of_mem c member)
      have nonzero : c ≠ '0' := by simpa using leads.first
      have digit : isDigit c = true := leads.plain c (List.mem_cons_self ..)
      rw [List.cons_append, scanWhole]
      · rw [takeWhile_digits later ends, dropWhile_digits later ends, if_pos digit]
      · exact fun zero => nonzero zero

theorem scanWhole_toDigits (n : Nat) (ends : ∀ c ∈ rest.head?, isDigit c = false) :
    scanWhole (Nat.toDigits 10 n ++ rest) = some (Nat.toDigits 10 n, rest) := by
  rcases Nat.eq_zero_or_pos n with rfl | pos
  · rw [Nat.toDigits_zero]
    rfl
  · exact scanWhole_leads (leads_decimalDigits pos) ends

theorem scanFraction_none (ends : ∀ c ∈ rest.head?, c ≠ '.') : scanFraction rest = ([], rest) := by
  cases rest with
  | nil => rfl
  | cons c rest =>
      have other : c ≠ '.' := ends c rfl
      simp [scanFraction, other]

theorem scanFraction_digits {fraction : List Char} (plain : ∀ c ∈ fraction, isDigit c = true)
    (some : fraction ≠ []) (ends : ∀ c ∈ rest.head?, isDigit c = false) :
    scanFraction ('.' :: (fraction ++ rest)) = (fraction, rest) := by
  simp [scanFraction, takeWhile_digits plain ends, dropWhile_digits plain ends, some]

theorem scanExponent_none (ends : ∀ c ∈ rest.head?, c ≠ 'e' ∧ c ≠ 'E') :
    scanExponent rest = (none, rest) := by
  cases rest with
  | nil => rfl
  | cons c rest => simp [scanExponent, ends c rfl]

/-- An exponent is written with a sign and at least two digits, the first of which may be zero. -/
theorem exists_exponentText (e : Int) : ∃ digits, digits ≠ [] ∧ (∀ c ∈ digits, isDigit c = true) ∧
    digitsValue digits = e.natAbs ∧ exponentText e = (if e < 0 then '-' else '+') :: digits := by
  have plain : ∀ c ∈ decimalDigits e.natAbs, isDigit c = true :=
    fun c member => isDigit_of_mem_toDigits member
  have value : digitsValue (decimalDigits e.natAbs) = e.natAbs := digitsValue_toDigits e.natAbs
  have zero : digitsValue ('0' :: decimalDigits e.natAbs) = e.natAbs := by
    have leading := digitsValue_zeros_append 1 (decimalDigits e.natAbs)
    exact leading.trans value
  by_cases short : (decimalDigits e.natAbs).length < 2
  · refine ⟨_, List.cons_ne_nil _ _, List.forall_mem_cons.2 ⟨by decide, plain⟩, zero, ?_⟩
    simp only [exponentText, short, if_true]
  · have some : decimalDigits e.natAbs ≠ [] := Nat.toDigits_ne_nil
    refine ⟨_, some, plain, value, ?_⟩
    simp only [exponentText, short, if_false]

theorem scanExponent_text (e : Int) (ends : ∀ c ∈ rest.head?, isDigit c = false) :
    scanExponent ('e' :: (exponentText e ++ rest)) = (some e, rest) := by
  rcases exists_exponentText e with ⟨digits, some, plain, value, text⟩
  have run := takeWhile_digits plain ends
  have later := dropWhile_digits plain ends
  have read : scanExponent ('e' :: (((if e < 0 then '-' else '+') :: digits) ++ rest)) =
      (Option.some (if e < 0 then -(digitsValue digits : Int) else digitsValue digits), rest) := by
    by_cases negative : e < 0 <;> simp [scanExponent, negative, sign, run, later, some]
  have back : (if e < 0 then -(digitsValue digits : Int) else digitsValue digits) = e := by
    rw [value]
    split <;> omega
  rw [text, read, back]

/-! ## Numbers -/

section Number

variable (start : List Char) (negative : Bool)

/-- A number with a point or an exponent is read from its parts. -/
theorem scanNumber_parts {s digits fraction after more : List Char} {exponent : Option Int}
    (whole : scanWhole s = some (digits, after)) (point : scanFraction after = (fraction, more))
    (power : scanExponent more = (exponent, rest))
    (broken : fraction ≠ [] ∨ exponent ≠ none) :
    scanNumber start negative s = .ok (.float
      ((⟨digitsValue (digits ++ fraction), exponent.getD 0 - fraction.length⟩ : Decimal).toBinary64
        negative), rest) := by
  have apart : (fraction.isEmpty && exponent.isNone) = false := by
    rcases broken with some | some
    · simp [some]
    · simp [Option.isNone_iff_eq_none.not.2 some]
  simp only [scanNumber, whole, point, power, apart]
  rfl

/-- Digits without a point or an exponent are a whole number, unless there are too many of them. -/
theorem scanNumber_whole (n : Nat) (ends : EndsNumber rest) :
    scanNumber start negative (Nat.toDigits 10 n ++ rest) =
      if digitLimit < (Nat.toDigits 10 n).length then
        failAt (.digits (Nat.toDigits 10 n).length) start
      else .ok (.int (if negative then -(n : Int) else n), rest) := by
  have whole := scanWhole_toDigits n (not_digit_of_endsNumber ends)
  have point : scanFraction rest = ([], rest) := scanFraction_none fun c first => (ends c first).2.1
  have power : scanExponent rest = (none, rest) := scanExponent_none fun c first => (ends c first).2.2
  simp only [scanNumber, whole, point, power]
  simp [digitsValue_toDigits]

section Layout

variable {digits : List Char} (leads : Leads digits) (ends : EndsNumber rest)

include leads ends

/-- The point stands before the digits, with zeros between. -/
theorem scanNumber_small (zeros : Nat) :
    scanNumber start negative ('0' :: '.' :: (List.replicate zeros '0' ++ digits) ++ rest) =
      .ok (.float ((⟨digitsValue digits, -(zeros : Int) - digits.length⟩ : Decimal).toBinary64
        negative), rest) := by
  have stops := not_digit_of_endsNumber ends
  have plain : ∀ c ∈ List.replicate zeros '0' ++ digits, isDigit c = true := by
    intro c member
    rcases List.mem_append.1 member with zero | digit
    · rw [List.eq_of_mem_replicate zero]
      decide
    · exact leads.plain c digit
  have some : List.replicate zeros '0' ++ digits ≠ [] :=
    List.append_ne_nil_of_right_ne_nil _ leads.some
  have value : digitsValue (['0'] ++ (List.replicate zeros '0' ++ digits)) = digitsValue digits :=
    (digitsValue_zeros_append 1 _).trans (digitsValue_zeros_append zeros digits)
  have places : (none : Option Int).getD 0 - (List.replicate zeros '0' ++ digits).length =
      -(zeros : Int) - digits.length := by
    simp
    omega
  let after : List Char := '.' :: (List.replicate zeros '0' ++ digits ++ rest)
  have whole : scanWhole ('0' :: after) = .some (['0'], after) := rfl
  have point : scanFraction after = (List.replicate zeros '0' ++ digits, rest) :=
    scanFraction_digits plain some stops
  have power : scanExponent rest = (none, rest) := scanExponent_none fun c first => (ends c first).2.2
  have read := scanNumber_parts start negative whole point power (.inl some)
  rw [value, places] at read
  exact read

/-- The point stands behind the digits, with zeros between. -/
theorem scanNumber_large (zeros : Nat) :
    scanNumber start negative (digits ++ List.replicate zeros '0' ++ ['.', '0'] ++ rest) =
      .ok (.float ((⟨digitsValue digits, zeros⟩ : Decimal).toBinary64 negative), rest) := by
  have longer : Leads (digits ++ List.replicate zeros '0') := by
    refine ⟨fun c member => ?_, List.append_ne_nil_of_left_ne_nil leads.some _, ?_⟩
    · rcases List.mem_append.1 member with digit | zero
      · exact leads.plain c digit
      · rw [List.eq_of_mem_replicate zero]
        decide
    · rcases List.exists_cons_of_ne_nil leads.some with ⟨c, tail, rfl⟩
      simpa using leads.first
  have value : digitsValue (digits ++ List.replicate zeros '0' ++ ['0']) =
      digitsValue digits * power 10 (zeros + 1) := by
    rw [List.append_assoc, ← List.replicate_succ', digitsValue_append_zeros]
  have whole : scanWhole (digits ++ List.replicate zeros '0' ++ '.' :: '0' :: rest) =
      some (digits ++ List.replicate zeros '0', '.' :: '0' :: rest) :=
    scanWhole_leads longer fun c first => by
      cases first
      decide
  have point : scanFraction ('.' :: (['0'] ++ rest)) = (['0'], rest) :=
    scanFraction_digits (List.forall_mem_singleton.2 rfl) (List.cons_ne_nil _ _) (not_digit_of_endsNumber ends)
  have power : scanExponent rest = (none, rest) := scanExponent_none fun c first => (ends c first).2.2
  have read := scanNumber_parts start negative whole point power (.inl (List.cons_ne_nil _ _))
  have places : (none : Option Int).getD 0 - (['0'] : List Char).length + (zeros + 1 : Nat) = zeros := by
    simp only [Option.getD_none, List.length_singleton]
    omega
  rw [value, Decimal.toBinary64_shift, places] at read
  simpa using read

/-- The point stands among the digits. -/
theorem scanNumber_inner {place : Nat} (some : 0 < place) (inside : place < digits.length) :
    scanNumber start negative (digits.take place ++ '.' :: digits.drop place ++ rest) =
      .ok (.float ((⟨digitsValue digits, (place : Int) - digits.length⟩ : Decimal).toBinary64
        negative), rest) := by
  have shorter : Leads (digits.take place) := by
    refine ⟨fun c member => leads.plain c (List.mem_of_mem_take member), ?_, ?_⟩
    · simp [leads.some, some.ne']
    · rw [List.head?_take, if_neg some.ne']
      exact leads.first
  have plain : ∀ c ∈ digits.drop place, isDigit c = true :=
    fun c member => leads.plain c (List.mem_of_mem_drop member)
  have behind : digits.drop place ≠ [] := by simpa using inside
  have whole : scanWhole (digits.take place ++ '.' :: (digits.drop place ++ rest)) =
      .some (digits.take place, '.' :: (digits.drop place ++ rest)) :=
    scanWhole_leads shorter fun c first => by
      cases first
      decide
  have point : scanFraction ('.' :: (digits.drop place ++ rest)) = (digits.drop place, rest) :=
    scanFraction_digits plain behind (not_digit_of_endsNumber ends)
  have power : scanExponent rest = (none, rest) := scanExponent_none fun c first => (ends c first).2.2
  have read := scanNumber_parts start negative whole point power (.inl behind)
  have places : (none : Option Int).getD 0 - (digits.drop place).length =
      (place : Int) - digits.length := by
    simp only [Option.getD_none, List.length_drop]
    omega
  rw [List.take_append_drop, places] at read
  simpa using read

/-- The point stands behind the first digit, if there are more, and an exponent follows. -/
theorem scanNumber_scientific (e : Int) :
    scanNumber start negative
        (digits.take 1 ++ (if (digits.drop 1).isEmpty then [] else '.' :: digits.drop 1) ++
          'e' :: exponentText e ++ rest) =
      .ok (.float ((⟨digitsValue digits, e + 1 - digits.length⟩ : Decimal).toBinary64
        negative), rest) := by
  have stops := not_digit_of_endsNumber ends
  have power := scanExponent_text e stops
  cases digits with
  | nil => exact absurd rfl leads.some
  | cons c fraction =>
      have single : Leads [c] := by
        refine ⟨fun d member => ?_, List.cons_ne_nil _ _, by simpa using leads.first⟩
        exact leads.plain d (List.mem_cons.2 (.inl (List.mem_singleton.1 member)))
      have plain : ∀ d ∈ fraction, isDigit d = true :=
        fun d member => leads.plain d (List.mem_cons_of_mem c member)
      have places : (some e).getD 0 - fraction.length = e + 1 - (c :: fraction).length := by
        rw [Option.getD_some, List.length_cons]
        omega
      have point : scanFraction ((if fraction.isEmpty then [] else '.' :: fraction) ++
          'e' :: (exponentText e ++ rest)) = (fraction, 'e' :: (exponentText e ++ rest)) := by
        cases fraction with
        | nil => exact scanFraction_none fun d first => by cases first; decide
        | cons d fraction =>
            exact scanFraction_digits plain (List.cons_ne_nil _ _) fun d first => by
              cases first
              decide
      have whole : scanWhole ([c] ++ ((if fraction.isEmpty then [] else '.' :: fraction) ++
          'e' :: (exponentText e ++ rest))) = some ([c],
            (if fraction.isEmpty then [] else '.' :: fraction) ++
              'e' :: (exponentText e ++ rest)) := by
        refine scanWhole_leads single fun d first => ?_
        cases fraction with
        | nil => cases first; decide
        | cons _ _ => cases first; decide
      have read := scanNumber_parts start negative whole point power
        (.inr (Option.some_ne_none e))
      rw [places] at read
      simpa using read

/-- Significant digits are read with the point where it was put, in each of the layouts. -/
theorem scanNumber_layout (position : Int) :
    scanNumber start negative (layout digits position ++ rest) = .ok (.float
      ((⟨digitsValue digits, position - digits.length⟩ : Decimal).toBinary64 negative), rest) := by
  unfold layout
  split_ifs with plain before behind
  · have zeros : -(((-position).toNat : Nat) : Int) = position := by omega
    have read := scanNumber_small start negative leads ends (-position).toNat
    rw [zeros] at read
    exact read
  · have zeros : ((position.toNat - digits.length : Nat) : Int) = position - digits.length := by
      omega
    have read := scanNumber_large start negative leads ends (position.toNat - digits.length)
    rw [zeros] at read
    exact read
  · have place : ((position.toNat : Nat) : Int) = position := by omega
    have some : 0 < position.toNat := by omega
    have inside : position.toNat < digits.length := by omega
    have read := scanNumber_inner start negative leads ends some inside
    rw [place] at read
    exact read
  · have exponent : position - 1 + 1 = position := by omega
    have read := scanNumber_scientific start negative leads ends (position - 1)
    rw [exponent] at read
    exact read

end Layout

/-- A magnitude is read back from its text. -/
theorem scanNumber_text (m : Magnitude) (ends : EndsNumber rest) :
    scanNumber start negative (m.text ++ rest) = .ok (.float (.finite negative m), rest) := by
  by_cases none : m.units = 0
  · have zero : m = .zero := by
      cases m
      simp_all [Magnitude.zero]
    have point : scanFraction ('.' :: (['0'] ++ rest)) = (['0'], rest) :=
      scanFraction_digits (List.forall_mem_singleton.2 rfl) (List.cons_ne_nil _ _) (not_digit_of_endsNumber ends)
    have power : scanExponent rest = (Option.none, rest) :=
      scanExponent_none fun c first => (ends c first).2.2
    have whole : scanWhole ('0' :: '.' :: (['0'] ++ rest)) = some (['0'], '.' :: (['0'] ++ rest)) :=
      rfl
    have read := scanNumber_parts start negative whole point power (.inl (List.cons_ne_nil _ _))
    have value : digitsValue (['0'] ++ ['0']) = 0 := rfl
    rw [Decimal.toBinary64_of_digits_eq_zero value] at read
    rw [Magnitude.text, if_pos none, zero]
    exact read
  · have leads := Decimal.leads_significant (Decimal.digits_shortest_ne_zero none)
    rw [Magnitude.text, if_neg none]
    dsimp only
    rw [scanNumber_layout start negative leads ends, Decimal.toBinary64_significant,
      Decimal.toBinary64_shortest none]

end Number

end Json

end DataGateway
