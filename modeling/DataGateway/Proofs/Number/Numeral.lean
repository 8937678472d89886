import DataGateway.Number.Numeral
import Mathlib.Algebra.Group.Nat.Defs
import Mathlib.Data.List.TakeDrop
import Mathlib.Data.List.TakeWhile

/-!
# Numerals of natural numbers

The decimal digits of a natural number are plain digits, and reading them gives the number back.

* `digitsValue_toDigits`, `digitsValue_lt` — the value of the digits, and its bound;
* `whole_toDigits` — the numeral is read as a whole number, up to the limit of its length.
-/

namespace DataGateway.Numeral

open Text

/-! ## Digits -/

theorem isDigit_of_mem_toDigits {n : Nat} {c : Char} (hc : c ∈ Nat.toDigits 10 n) :
    isDigit c = true := by
  have digit : c.isDigit = true := Nat.isDigit_of_mem_toDigits (by decide) (by decide) hc
  simpa [isDigit, Char.isDigit, Char.le_def] using digit

theorem digitsValue_toDigits (n : Nat) : digitsValue (Nat.toDigits 10 n) = n := by
  have fold : ∀ (digits : List Char) (start : Nat),
      digits.foldl (fun value c => value * 10 + (c.toNat - 48)) start =
        Nat.ofDigitChars 10 digits start := by
    intro digits start
    simp [Nat.ofDigitChars_eq_foldl, Nat.mul_comm]
  rw [digitsValue, fold]
  exact Nat.ofDigitChars_toDigits (by decide) (by decide)

/-- The numeral of a number that is not negative has its digits and nothing else. -/
theorem toList_toString {n : Int} (nonneg : 0 ≤ n) : (toString n).toList = Nat.toDigits 10 n.toNat := by
  cases n with
  | ofNat m => simp [Int.toString_eq_repr, Int.repr]
  | negSucc m => omega

theorem digitsValue_toString {n : Int} (nonneg : 0 ≤ n) :
    (digitsValue (toString n).toList : Int) = n := by
  rw [toList_toString nonneg, digitsValue_toDigits, Int.toNat_of_nonneg nonneg]

theorem toNat_of_isDigit {c : Char} (h : isDigit c = true) : 48 ≤ c.toNat ∧ c.toNat ≤ 57 := by
  simpa [isDigit, Char.le_def, UInt32.le_iff_toNat_le] using h

theorem digitsValue_lt {digits : List Char} (plain : ∀ c ∈ digits, isDigit c = true) :
    digitsValue digits < 10 ^ digits.length := by
  have fold (digits : List Char) (plain : ∀ c ∈ digits, isDigit c = true) (start : Nat) :
      digits.foldl (fun value c => value * 10 + (c.toNat - 48)) start <
        (start + 1) * 10 ^ digits.length := by
    induction digits generalizing start with
    | nil => simp
    | cons c digits ih =>
        have bounds := toNat_of_isDigit (plain c (List.mem_cons_self ..))
        have rest := ih (fun d hd => plain d (List.mem_cons_of_mem c hd))
          (start * 10 + (c.toNat - 48))
        -- a digit more makes ten times as much room
        have grown : start * 10 + (c.toNat - 48) + 1 ≤ (start + 1) * 10 := by omega
        rw [List.foldl_cons, List.length_cons, Nat.pow_succ, Nat.mul_comm (10 ^ _), ← Nat.mul_assoc]
        exact Nat.lt_of_lt_of_le rest (Nat.mul_le_mul_right _ grown)
  simpa [digitsValue] using fold digits plain 0

theorem simplify_of_isDigit {c : Char} (h : isDigit c = true) : simplify c = c := by
  have bounds := toNat_of_isDigit h
  have small : c.toNat < 127 := by omega
  simp [simplify, small]

theorem isPlainBlank_of_isDigit {c : Char} (h : isDigit c = true) : isPlainBlank c = false := by
  have bounds := toNat_of_isDigit h
  simp [isPlainBlank]
  omega

theorem ne_underscore_of_isDigit {c : Char} (h : isDigit c = true) : c ≠ '_' := by
  rintro rfl
  cases h

/-! ## Whole numbers -/

theorem trimBy_of_forall {α : Type} {skip : α → Bool} {s : List α}
    (h : ∀ c ∈ s, skip c = false) : trimBy skip s = s := by
  have keep : ∀ t : List α, (∀ c ∈ t, skip c = false) → t.dropWhile skip = t := by
    intro t ht
    cases t with
    | nil => rfl
    | cons c t => simp [ht c]
  have reversed : ∀ c ∈ s.reverse, skip c = false := fun c hc => h c (List.mem_reverse.1 hc)
  rw [trimBy, keep s h, keep s.reverse reversed, List.reverse_reverse]

section Digits

variable {digits : List Char} (plain : ∀ c ∈ digits, isDigit c = true)

include plain

theorem map_simplify_of_digits : digits.map simplify = digits := by
  rw [List.map_congr_left fun c hc => simplify_of_isDigit (plain c hc)]
  exact List.map_id' digits

theorem prepare_of_digits : prepare digits = digits := by
  rw [prepare, map_simplify_of_digits plain]
  exact trimBy_of_forall fun c hc => isPlainBlank_of_isDigit (plain c hc)

theorem sign_of_digits : sign digits = (false, digits) := by
  unfold sign
  split
  · cases plain '-' (List.mem_cons_self ..)
  · cases plain '+' (List.mem_cons_self ..)
  · rfl

theorem separatorsStand_of_digits {before : Char} (h : before ≠ '_') :
    separatorsStand before digits = true := by
  induction digits generalizing before with
  | nil => simp [separatorsStand, h]
  | cons c rest ih =>
      have digit : isDigit c = true := plain c (List.mem_cons_self ..)
      have after := ih (fun d hd => plain d (List.mem_cons_of_mem c hd))
        (ne_underscore_of_isDigit digit)
      simp [separatorsStand, digit, after, ne_underscore_of_isDigit digit]

theorem unsignedWhole_of_digits (some : digits ≠ []) :
    unsignedWhole digits = if digitLimit < digits.length then .error (.tooLong digits.length)
      else .ok (digitsValue digits) := by
  have run : ∀ c ∈ digits, (isDigit c || c == '_') = true := fun c hc => by simp [plain c hc]
  have span : digits.span (fun c => isDigit c || c == '_') = (digits, []) := by
    rw [List.span_eq_takeWhile_dropWhile, List.takeWhile_eq_self_iff.2 run,
      List.dropWhile_eq_nil_iff.2 run]
  have stand : separatorsStand ' ' digits = true := separatorsStand_of_digits plain (by decide)
  unfold unsignedWhole
  rw [span]
  simp [List.filter_eq_self.2 plain, some, stand]

theorem whole_of_digits (some : digits ≠ []) :
    whole digits = if digitLimit < digits.length then .error (.tooLong digits.length)
      else .ok (digitsValue digits) := by
  rw [whole, prepare_of_digits plain, sign_of_digits plain]
  show (do let value ← unsignedWhole digits; return (value : Int)) = _
  rw [unsignedWhole_of_digits plain some]
  split <;> rfl

end Digits

/-- A number with at most as many digits as the limit allows is read back from its numeral. -/
theorem whole_toDigits {n : Nat} (h : n < 10 ^ digitLimit) : whole (Nat.toDigits 10 n) = .ok n := by
  have short : (Nat.toDigits 10 n).length ≤ digitLimit :=
    (Nat.length_toDigits_le_iff (by decide) (by decide)).2 h
  rw [whole_of_digits (fun c hc => isDigit_of_mem_toDigits hc) Nat.toDigits_ne_nil,
    if_neg (Nat.not_lt.2 short), digitsValue_toDigits]

end DataGateway.Numeral
