import DataGateway.Number.Binary64
import Mathlib.Logic.Basic

/-!
# The size of rounded numbers

A quotient below a power of two is rounded to at most that power, so rounding overflows only on
quotients that are large themselves.

* `roundUnits_le` — the bound, from the 53 leading bits on;
* `exists_ofQuotient?`, `exists_scale` — quotients of moderate size are rounded to finite numbers.
-/

namespace DataGateway

namespace Magnitude

theorem roundUnits_le {n d bits : Nat} (enough : 53 ≤ bits) (small : n * one / d < power 2 bits) :
    roundUnits n d ≤ power 2 bits := by
  have positive : 0 < power 2 ((n * one / d).log2 - 52) := power_pos Nat.two_pos _
  -- rounding keeps 53 bits and shifts them back, and the shift leaves room for them below the bound
  have shift : 53 + ((n * one / d).log2 - 52) ≤ bits := by
    by_cases none : n * one / d = 0
    · have log : (0 : Nat).log2 = 0 := rfl
      rw [none, log]
      exact enough
    · have log := log2_lt_of_lt_power none small
      omega
  calc
    roundUnits n d
        ≤ power 2 53 * power 2 ((n * one / d).log2 - 52) :=
          Nat.mul_le_mul_right _ (significand_le n d)
    _ = power 2 (53 + ((n * one / d).log2 - 52)) := (power_add 2 53 _).symm
    _ ≤ power 2 bits := power_le_power Nat.two_pos shift

theorem power_lt_power {m n : Nat} (h : m < n) : power 2 m < power 2 n :=
  Nat.pow_lt_pow_right (by decide) h

theorem exists_round? {n d bits : Nat} (enough : 53 ≤ bits) (fits : bits < 2098)
    (small : n * one / d < power 2 bits) :
    ∃ magnitude, round? n d = some magnitude ∧ magnitude.units ≤ power 2 bits := by
  have bound := roundUnits_le enough small
  have below : roundUnits n d < limit := Nat.lt_of_le_of_lt bound (power_lt_power fits)
  exact ⟨⟨roundUnits n d, fits_roundUnits below⟩, dif_pos below, bound⟩

end Magnitude

namespace Binary64

open Magnitude

theorem exists_ofQuotient? {n : Int} {bits : Nat} (d : Nat) (fits : bits < 1000)
    (small : n.natAbs < power 2 bits) :
    ∃ magnitude, ofQuotient? n d = some (.finite (n < 0) magnitude) ∧
      magnitude.units ≤ power 2 (bits + 1074) := by
  have units : n.natAbs * one / d < power 2 (bits + 1074) := by
    rw [power_add]
    exact Nat.lt_of_le_of_lt (Nat.div_le_self ..) (Nat.mul_lt_mul_of_pos_right small Magnitude.one_pos)
  rcases exists_round? (by omega) (by omega) units with ⟨magnitude, rounded, bound⟩
  refine ⟨magnitude, ?_, bound⟩
  rw [ofQuotient?, rounded]
  rfl

theorem ofRatio_of_round? {negative : Bool} {n d : Nat} {magnitude : Magnitude}
    (rounded : round? n d = some magnitude) : ofRatio negative n d = .finite negative magnitude := by
  rw [ofRatio, rounded]
  rfl

/-- Thousandfold numbers of moderate size are finite. -/
theorem exists_scale (negative : Bool) {magnitude : Magnitude} {bits : Nat} (enough : 53 ≤ bits)
    (fits : bits < 2000) (small : magnitude.units ≤ power 2 bits) :
    ∃ scaled, scale (.finite negative magnitude) 1000 = .finite negative scaled := by
  have units : magnitude.units * 1000 * one / one < power 2 (bits + 10) := by
    rw [Nat.mul_div_cancel _ Magnitude.one_pos, power_add]
    have kilo : 1000 < power 2 10 := by decide
    have positive : 0 < power 2 bits := power_pos Nat.two_pos bits
    calc
      magnitude.units * 1000 ≤ power 2 bits * 1000 := Nat.mul_le_mul_right _ small
      _ < power 2 bits * power 2 10 := Nat.mul_lt_mul_of_pos_left kilo positive
  rcases exists_round? (by omega) (by omega) units with ⟨scaled, rounded, _⟩
  exact ⟨scaled, ofRatio_of_round? rounded⟩

end Binary64

end DataGateway
