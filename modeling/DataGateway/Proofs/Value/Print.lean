import DataGateway.Proofs.Except
import DataGateway.Proofs.Number.Numeral
import DataGateway.Value.Access
import Mathlib.Algebra.Group.Int.Defs

/-!
# Values with a text

A value has a text unless a whole number of too many digits is somewhere in it. What prints a value gives
its text then, and otherwise fails in one way.

* `Numeral.isWritable_iff` — how large a number with a numeral may be;
* `Value.isPrintable_of_mem` — the parts of a value with a text have texts;
* `Value.printed_of_isPrintable`, `Value.printed_of_not` — printing;
* `Value.refuse_eq` — refusing with a message that repeats the value.
-/

namespace DataGateway

/-! ## Numerals -/

theorem Numeral.isWritable_iff {n : Int} :
    Numeral.isWritable n = true ↔ n.natAbs < 10 ^ Numeral.digitLimit := by
  rw [Numeral.isWritable, decide_eq_true_iff]
  exact Nat.length_toDigits_le_iff (by decide) (by decide)

/-- The powers of ten beyond the limit have no numerals. -/
theorem Numeral.isWritable_power {k : Nat} (large : Numeral.digitLimit ≤ k) :
    Numeral.isWritable (10 ^ k) = false := by
  rw [← Bool.not_eq_true, isWritable_iff, Int.natAbs_pow]
  exact Nat.not_lt.2 (Nat.pow_le_pow_right (by decide) large)

namespace Value

variable {v : Value}

/-! ## Parts -/

theorem fieldsPrintable_iff {fields : List (String × Value)} :
    fieldsPrintable fields = true ↔ ∀ field ∈ fields, field.2.isPrintable = true := by
  induction fields with
  | nil => simp [fieldsPrintable]
  | cons field fields ih => simp [fieldsPrintable, ih]

/-- A record with a text has texts in its columns. -/
theorem isPrintable_of_mem {fields : Record} {name : String}
    (printable : (object fields).isPrintable = true) (member : (name, v) ∈ fields) :
    v.isPrintable = true :=
  fieldsPrintable_iff.1 printable _ member

/-! ## Printing -/

theorem requirePrintable_of_isPrintable (printable : v.isPrintable = true) :
    v.requirePrintable = .ok () := if_pos printable

theorem requirePrintable_of_not (unprintable : v.isPrintable = false) :
    v.requirePrintable = .error (.misuse .wholeUnwritable) := by
  rw [requirePrintable, unprintable]
  rfl

theorem requirePrintable_eq_ok_iff : v.requirePrintable = .ok () ↔ v.isPrintable = true := by
  cases printable : v.isPrintable with
  | true => simp [requirePrintable_of_isPrintable printable]
  | false => simp [requirePrintable_of_not printable]

theorem printed_of_isPrintable (printable : v.isPrintable = true) : v.printed = .ok v.display := by
  rw [printed, requirePrintable_of_isPrintable printable]
  rfl

theorem printed_of_not (unprintable : v.isPrintable = false) :
    v.printed = .error (.misuse .wholeUnwritable) := by
  rw [printed, requirePrintable_of_not unprintable]
  rfl

theorem printed_eq_ok_iff {s : String} :
    v.printed = .ok s ↔ v.isPrintable = true ∧ s = v.display := by
  cases printable : v.isPrintable with
  | true =>
      rw [printed_of_isPrintable printable, Except.ok.injEq]
      exact ⟨fun same => ⟨rfl, same.symm⟩, fun same => same.2.symm⟩
  | false =>
      rw [printed_of_not printable]
      exact ⟨nofun, nofun⟩

theorem eq_of_printed_eq_error {fault : Fault} (failed : v.printed = .error fault) :
    fault = .misuse .wholeUnwritable := by
  cases printable : v.isPrintable with
  | true =>
      rw [printed_of_isPrintable printable] at failed
      cases failed
  | false =>
      rw [printed_of_not printable] at failed
      exact (Except.error.inj failed).symm

theorem refuse_eq {α : Type} (v : Value) (refusal : String → Refusal) :
    (v.refuse refusal : Except Fault α) =
      .error (if v.isPrintable then .refused (refusal v.literal) else .misuse .wholeUnwritable) := by
  cases printable : v.isPrintable with
  | true =>
      rw [refuse, requirePrintable_of_isPrintable printable]
      rfl
  | false =>
      rw [refuse, requirePrintable_of_not printable]
      rfl

end Value

end DataGateway
