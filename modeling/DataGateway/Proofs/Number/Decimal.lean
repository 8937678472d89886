import DataGateway.Number.Decimal
import DataGateway.Proofs.Number.Numeral

/-!
# Decimals that are read back

Reading a decimal rounds a quotient, and the quotient alone decides. So a decimal may be written with
more zeros behind its digits and a smaller exponent, and a magnitude is read back from all of its digits,
or from the fewest that are enough.

* `roundUnits_mul` — only the quotient counts, however it is expanded;
* `round?_of_units` — a quotient that is a magnitude is not rounded;
* `toBinary64_shift` — zeros behind the digits count as part of the exponent;
* `toBinary64_shortest` — the digits that are chosen for a magnitude are read as the magnitude.
-/

namespace DataGateway

theorem power_eq (b n : Nat) : power b n = b ^ n := rfl

/-! ## Rounding -/

theorem roundHalfEven_mul (n d : Nat) {k : Nat} (pos : 0 < k) :
    roundHalfEven (n * k) (d * k) = roundHalfEven n d := by
  have quotient : n * k / (d * k) = n / d := Nat.mul_div_mul_right n d pos
  have remainder : n * k % (d * k) = n % d * k := Nat.mul_mod_mul_right k n d
  have less : 2 * (n % d * k) < d * k ↔ 2 * (n % d) < d := by
    rw [← Nat.mul_assoc]
    exact Nat.mul_lt_mul_right pos
  have more : d * k < 2 * (n % d * k) ↔ d < 2 * (n % d) := by
    rw [← Nat.mul_assoc]
    exact Nat.mul_lt_mul_right pos
  simp only [roundHalfEven, quotient, remainder, less, more]

/-- A quotient without a remainder is not rounded. -/
theorem roundHalfEven_of_dvd {n d : Nat} (pos : 0 < d) (whole : d ∣ n) :
    roundHalfEven n d = n / d := by
  have none : n % d = 0 := Nat.mod_eq_zero_of_dvd whole
  simp [roundHalfEven, none, pos]

namespace Magnitude

/-- Only the quotient counts, however it is expanded. -/
theorem roundUnits_mul (n d : Nat) {k : Nat} (pos : 0 < k) :
    roundUnits (n * k) (d * k) = roundUnits n d := by
  have units : n * k * one = n * one * k := Nat.mul_right_comm n k one
  have quotient : n * one * k / (d * k) = n * one / d := Nat.mul_div_mul_right _ d pos
  simp only [roundUnits, units, quotient, Nat.mul_right_comm d k]
  rw [roundHalfEven_mul _ _ pos]

theorem round?_mul (n d : Nat) {k : Nat} (pos : 0 < k) : round? (n * k) (d * k) = round? n d := by
  simp only [round?, roundUnits_mul n d pos]

/-- A quotient that is a magnitude is not rounded. -/
theorem roundUnits_of_units {n d units : Nat} (pos : 0 < d) (exact : n * one = units * d)
    (fits : Fits units) : roundUnits n d = units := by
  have quotient : n * one / d = units := by
    rw [exact]
    exact Nat.mul_div_cancel units pos
  have positive : 0 < power 2 (units.log2 - 52) := power_pos Nat.two_pos _
  simp only [roundUnits, quotient]
  calc
    roundHalfEven (n * one) (d * power 2 (units.log2 - 52)) * power 2 (units.log2 - 52)
        = roundHalfEven (units * d) (power 2 (units.log2 - 52) * d) *
            power 2 (units.log2 - 52) := by rw [exact, Nat.mul_comm d]
    _ = roundHalfEven units (power 2 (units.log2 - 52)) * power 2 (units.log2 - 52) := by
          rw [roundHalfEven_mul _ _ pos]
    _ = units / power 2 (units.log2 - 52) * power 2 (units.log2 - 52) := by
          rw [roundHalfEven_of_dvd positive fits.2]
    _ = units := Nat.div_mul_cancel fits.2

theorem round?_of_units {n d : Nat} {m : Magnitude} (pos : 0 < d) (exact : n * one = m.units * d) :
    round? n d = some m := by
  have same : roundUnits n d = m.units := roundUnits_of_units pos exact m.fits
  have below : roundUnits n d < limit := by
    rw [same]
    exact m.fits.1
  rw [round?, dif_pos below]
  cases m
  simp_all

end Magnitude

namespace Binary64

theorem ofRatio_mul (negative : Bool) (n d : Nat) {k : Nat} (pos : 0 < k) :
    ofRatio negative (n * k) (d * k) = ofRatio negative n d := by
  simp only [ofRatio, Magnitude.round?_mul n d pos]

/-- The sign takes no part in rounding. -/
theorem ofRatio_of_finite {n d : Nat} {m : Magnitude} (h : ofRatio false n d = .finite false m)
    (negative : Bool) : ofRatio negative n d = .finite negative m := by
  unfold ofRatio at h ⊢
  cases rounded : Magnitude.round? n d with
  | none => simp [rounded] at h
  | some magnitude =>
      have same : magnitude = m := by simpa [rounded] using h
      simp [same]

end Binary64

/-! ## Digits -/

theorem toDigits_mul_power {n : Nat} (pos : 0 < n) (zeros : Nat) :
    decimalDigits (n * power 10 zeros) = decimalDigits n ++ List.replicate zeros '0' := by
  unfold decimalDigits
  induction zeros with
  | zero =>
      have none : n * power 10 0 = n := by simp [power_eq]
      simp [none]
  | succ zeros ih =>
      have tenfold : n * power 10 (zeros + 1) = 10 * (n * power 10 zeros) + 0 := by
        simp only [power_eq, Nat.pow_succ]
        ac_rfl
      have positive : 0 < n * power 10 zeros := Nat.mul_pos pos (power_pos (by decide) zeros)
      have last : Nat.toDigits 10 0 = ['0'] := Nat.toDigits_zero 10
      calc
        Nat.toDigits 10 (n * power 10 (zeros + 1))
            = Nat.toDigits 10 (n * power 10 zeros) ++ Nat.toDigits 10 0 := by
              rw [tenfold, Nat.toDigits_append_toDigits (by decide) positive (by decide)]
        _ = Nat.toDigits 10 n ++ (List.replicate zeros '0' ++ ['0']) := by
              rw [ih, last, List.append_assoc]
        _ = Nat.toDigits 10 n ++ List.replicate (zeros + 1) '0' := by
              rw [List.replicate_succ']

theorem length_decimalDigits_mul {n : Nat} (pos : 0 < n) (zeros : Nat) :
    (decimalDigits (n * power 10 zeros)).length = (decimalDigits n).length + zeros := by
  simp [toDigits_mul_power pos]

theorem length_decimalDigits_le_iff {n count : Nat} (pos : 0 < count) :
    (decimalDigits n).length ≤ count ↔ n < power 10 count :=
  Nat.length_toDigits_le_iff (by decide) pos

namespace Decimal

/-! ## One number in many forms -/

theorem scale_shift {digits : Nat} (pos : 0 < digits) (zeros : Nat) (exponent : Int) :
    scale ⟨digits * power 10 zeros, exponent⟩ = scale ⟨digits, exponent + zeros⟩ := by
  simp only [scale, length_decimalDigits_mul pos]
  omega

/-- The nearest number to a decimal of moderate size. -/
def rounded (negative : Bool) (digits : Nat) (exponent : Int) : Binary64 :=
  if 0 ≤ exponent then .ofRatio negative (digits * power 10 exponent.toNat) 1
  else .ofRatio negative digits (power 10 (-exponent).toNat)

theorem rounded_shift (negative : Bool) (digits zeros : Nat) (exponent : Int) :
    rounded negative (digits * power 10 zeros) exponent =
      rounded negative digits (exponent + zeros) := by
  have ten (n : Nat) : 0 < power 10 n := power_pos (by decide) n
  unfold rounded
  by_cases positive : 0 ≤ exponent
  · have later : 0 ≤ exponent + zeros := by omega
    have places : (exponent + zeros).toNat = zeros + exponent.toNat := by omega
    rw [if_pos positive, if_pos later, places, power_add, Nat.mul_assoc]
  · by_cases later : 0 ≤ exponent + zeros
    · -- the zeros lead from below the point to above it
      have places : zeros = (exponent + zeros).toNat + (-exponent).toNat := by omega
      have expanded : digits * power 10 zeros =
          digits * power 10 (exponent + zeros).toNat * power 10 (-exponent).toNat := by
        rw [Nat.mul_assoc, ← power_add, ← places]
      have whole := Binary64.ofRatio_mul negative (digits * power 10 (exponent + zeros).toNat) 1
        (ten (-exponent).toNat)
      rw [Nat.one_mul] at whole
      rw [if_neg positive, if_pos later, expanded, whole]
    · have places : (-exponent).toNat = (-(exponent + zeros)).toNat + zeros := by omega
      rw [if_neg positive, if_neg later, places, power_add,
        Binary64.ofRatio_mul negative _ _ (ten zeros)]

/-- Zeros behind the digits count as part of the exponent. -/
theorem toBinary64_shift (negative : Bool) (digits zeros : Nat) (exponent : Int) :
    toBinary64 negative ⟨digits * power 10 zeros, exponent⟩ =
      toBinary64 negative ⟨digits, exponent + zeros⟩ := by
  rcases Nat.eq_zero_or_pos digits with rfl | pos
  · simp [toBinary64]
  · have ten : 0 < power 10 zeros := power_pos (by decide) zeros
    have some : digits * power 10 zeros ≠ 0 := (Nat.mul_pos pos ten).ne'
    have here : digits ≠ 0 := pos.ne'
    have quotients := rounded_shift negative digits zeros exponent
    simp only [rounded] at quotients
    simp only [toBinary64, scale_shift pos, some, here, quotients]

theorem toBinary64_of_digits_eq_zero {d : Decimal} (none : d.digits = 0) (negative : Bool) :
    d.toBinary64 negative = .finite negative .zero := by
  simp [toBinary64, none]

/-- The sign takes no part in reading. -/
theorem toBinary64_of_finite {d : Decimal} {m : Magnitude} (h : d.toBinary64 false = .finite false m)
    (negative : Bool) : d.toBinary64 negative = .finite negative m := by
  unfold toBinary64 at h ⊢
  split at h
  · have zero : Magnitude.zero = m := by simpa using h
    rw [if_pos (by assumption), zero]
  · rw [if_neg (by assumption)]
    split at h
    · cases h
    · rw [if_neg (by assumption)]
      split at h
      · rw [if_pos (by assumption)]
        exact Binary64.ofRatio_of_finite h negative
      · rw [if_neg (by assumption)]
        exact Binary64.ofRatio_of_finite h negative

/-! ## All digits of a magnitude -/

section Exact

variable {m : Magnitude} (some : m.units ≠ 0)

include some

theorem digits_exact_ne_zero : (exact m).digits ≠ 0 :=
  (Nat.mul_pos (Nat.pos_of_ne_zero some) (power_pos (by decide) 1074)).ne'

/-- A magnitude is neither too small nor too large to be read. -/
theorem scale_exact : -400 ≤ (exact m).scale ∧ (exact m).scale ≤ 400 := by
  have five : power 10 700 ≤ power 5 1074 := by decide +kernel
  have least : power 10 700 ≤ m.units * power 5 1074 :=
    Nat.le_trans five (Nat.le_mul_of_pos_left _ (Nat.pos_of_ne_zero some))
  have most : m.units * power 5 1074 < power 10 1474 := by
    calc
      m.units * power 5 1074 < Magnitude.limit * power 5 1074 :=
        Nat.mul_lt_mul_of_pos_right m.fits.1 (power_pos (by decide) 1074)
      _ ≤ power 10 1474 := by decide +kernel
  have long : ¬(decimalDigits (m.units * power 5 1074)).length ≤ 700 := by
    rw [length_decimalDigits_le_iff (by decide)]
    exact Nat.not_lt.2 least
  have short : (decimalDigits (m.units * power 5 1074)).length ≤ 1474 := by
    rw [length_decimalDigits_le_iff (by decide)]
    exact most
  simp only [scale, exact]
  omega

theorem toBinary64_exact : (exact m).toBinary64 false = .finite false m := by
  have bounds := scale_exact some
  have tens : power 10 1074 = power 5 1074 * Magnitude.one := by decide +kernel
  have units : m.units * power 5 1074 * Magnitude.one = m.units * power 10 1074 := by
    rw [tens, Nat.mul_assoc]
  have rounded : Magnitude.round? (m.units * power 5 1074) (power 10 1074) = .some m :=
    Magnitude.round?_of_units (power_pos (by decide) 1074) units
  have small : ¬((exact m).digits = 0 ∨ (exact m).scale < -400) := by
    rintro (none | low)
    · exact digits_exact_ne_zero some none
    · omega
  have large : ¬400 < (exact m).scale := by omega
  have below : ¬0 ≤ (exact m).exponent := by
    simp [exact]
  rw [toBinary64, if_neg small, if_neg large, if_neg below]
  exact congrArg (fun found => (found.map (Binary64.finite false)).getD (.infinity false)) rounded

/-- The digits that are chosen for a magnitude are read as the magnitude. -/
theorem toBinary64_shortest (negative : Bool) :
    (shortest m).toBinary64 negative = .finite negative m := by
  refine toBinary64_of_finite ?_ negative
  simp only [shortest]
  cases found : (List.range 17).findSome? fun (count : Nat) =>
      (neighbours m (pointPosition m - (count + 1))).find? (readsAs m) with
  | none => exact toBinary64_exact some
  | some d =>
      -- what is found has been read
      rcases List.exists_of_findSome?_eq_some found with ⟨count, _, near⟩
      simpa [readsAs] using List.find?_some near

theorem digits_shortest_ne_zero : (shortest m).digits ≠ 0 := by
  intro none
  have reads := toBinary64_shortest some false
  rw [toBinary64_of_digits_eq_zero none] at reads
  have zero : Magnitude.zero = m := by simpa using reads
  exact some (by rw [← zero]; rfl)

end Exact

end Decimal

end DataGateway
