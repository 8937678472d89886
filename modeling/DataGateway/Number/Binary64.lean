import DataGateway.Number.Power

/-!
# Binary64 numbers

A finite binary64 number is a sign and a whole count of units of `2^-1074`, so arithmetic and
comparison are exact arithmetic on natural numbers followed by one rounding.

* `Magnitude.Fits` says which counts are magnitudes: 53 leading bits hold all of it;
* `Magnitude.round` rounds a quotient to the nearest magnitude, a tie to the even significand;
* `Quantity` places numbers of both kinds, whole and binary64, on one line for comparison.
-/

namespace DataGateway

/-! ## Magnitudes -/

namespace Magnitude

/-- Units of one. -/
def one : Nat := power 2 1074

theorem one_pos : 0 < one := power_pos Nat.two_pos 1074

/-- The exclusive bound of all magnitudes. -/
def limit : Nat := power 2 2098

theorem limit_pos : 0 < limit := power_pos Nat.two_pos 2098

/-- A count of units is a magnitude when its 53 leading bits hold all of it. -/
def Fits (units : Nat) : Prop := units < limit ∧ power 2 (units.log2 - 52) ∣ units

instance (units : Nat) : Decidable (Fits units) := inferInstanceAs (Decidable (_ ∧ _))

end Magnitude

/-- The size of a finite binary64 number, counted in units of `2^-1074`. -/
structure Magnitude where
  units : Nat
  fits : Magnitude.Fits units
  deriving DecidableEq

/-- The quotient rounded to a whole number, a half going to the even neighbour. -/
def roundHalfEven (n d : Nat) : Nat :=
  if 2 * (n % d) < d then n / d
  else if d < 2 * (n % d) then n / d + 1
  else n / d + (n / d) % 2

theorem roundHalfEven_le (n d : Nat) : roundHalfEven n d ≤ n / d + 1 := by
  unfold roundHalfEven
  split
  · omega
  · split <;> omega

namespace Magnitude

/-- The nearest count of units to a quotient that keeps 53 leading bits. -/
def roundUnits (n d : Nat) : Nat :=
  -- the bits behind the leading 53 are rounded away
  let shift := (n * one / d).log2 - 52
  roundHalfEven (n * one) (d * power 2 shift) * power 2 shift

theorem dvd_mul_power {q shift : Nat} (h : q ≤ power 2 53) :
    power 2 ((q * power 2 shift).log2 - 52) ∣ q * power 2 shift := by
  by_cases hq : q = power 2 53
  · subst hq
    rw [← power_add, log2_power]
    exact power_dvd_power 2 (by omega)
  · have lt : q * power 2 shift < power 2 (53 + shift) := by
      rw [power_add]
      exact Nat.mul_lt_mul_of_pos_right (by omega) (power_pos Nat.two_pos shift)
    have bound : (q * power 2 shift).log2 - 52 ≤ shift := by
      by_cases hz : q * power 2 shift = 0
      · simp [hz]
      · have := log2_lt_of_lt_power hz lt
        omega
    exact Nat.dvd_trans (power_dvd_power 2 bound) (Nat.dvd_mul_left ..)

theorem significand_le (n d : Nat) :
    roundHalfEven (n * one) (d * power 2 ((n * one / d).log2 - 52)) ≤ power 2 53 := by
  refine Nat.le_trans (roundHalfEven_le _ _) ?_
  rw [← Nat.div_div_eq_div_mul]
  refine Nat.succ_le_of_lt ((Nat.div_lt_iff_lt_mul (power_pos Nat.two_pos _)).2 ?_)
  rw [← power_add]
  exact Nat.lt_of_lt_of_le (lt_power_log2_add_one (n * one / d))
    (power_le_power Nat.two_pos (by omega))

theorem fits_roundUnits {n d : Nat} (h : roundUnits n d < limit) : Fits (roundUnits n d) :=
  ⟨h, dvd_mul_power (significand_le n d)⟩

/-- The nearest magnitude to a quotient; nothing when it is too large. -/
def round? (n d : Nat) : Option Magnitude :=
  if h : roundUnits n d < limit then some ⟨roundUnits n d, fits_roundUnits h⟩ else none

def zero : Magnitude := ⟨0, limit_pos, Nat.dvd_zero _⟩

end Magnitude

/-! ## Numbers -/

/-- A binary64 number. An indefinite one has an origin, which tells it apart from others: it is equal
to nothing, but it is the same thing as what has its origin. -/
inductive Binary64
  | nan (origin : Nat := 0)
  | infinity (negative : Bool)
  | finite (negative : Bool) (magnitude : Magnitude)
  deriving DecidableEq

namespace Binary64

/-- The nearest number to a quotient of natural numbers, with a sign. -/
def ofRatio (negative : Bool) (n d : Nat) : Binary64 :=
  ((Magnitude.round? n d).map (.finite negative)).getD (.infinity negative)

/-- The nearest number to a quotient of an integer; nothing when it is too large. -/
def ofQuotient? (n : Int) (d : Nat) : Option Binary64 :=
  (Magnitude.round? n.natAbs d).map (.finite (n < 0))

/-- The product with a natural number, rounded once. -/
def scale (x : Binary64) (k : Nat) : Binary64 :=
  match x with
  | .finite negative magnitude => ofRatio negative (magnitude.units * k) Magnitude.one
  | x => x

/-- Both zeros are zero. -/
def isZero : Binary64 → Bool
  | .finite _ magnitude => magnitude.units == 0
  | _ => false

/-- The signed count of units of a finite number. -/
def signed (negative : Bool) (magnitude : Magnitude) : Int :=
  if negative then -(magnitude.units : Int) else magnitude.units

/-- The whole part of a finite number, towards zero. -/
def truncate (negative : Bool) (magnitude : Magnitude) : Int :=
  let whole : Int := (magnitude.units / Magnitude.one : Nat)
  if negative then -whole else whole

end Binary64

/-! ## Comparison -/

/-- How two things compare: one way, the same, or not at all although both are of a kind. -/
inductive Relation
  | less
  | same
  | greater
  | unordered
  deriving DecidableEq

namespace Relation

def ofOrder {α : Type} [LT α] [DecidableLT α] [DecidableEq α] (a b : α) : Relation :=
  if a < b then .less else if a = b then .same else .greater

end Relation

/-- The place of a number on the line: exact units, beyond either end, or no place. -/
inductive Quantity
  | lowest
  | units (n : Int)
  | highest
  | indefinite
  deriving DecidableEq

namespace Quantity

def ofInt (n : Int) : Quantity := .units (n * Magnitude.one)

def ofBinary64 : Binary64 → Quantity
  | .nan _ => .indefinite
  | .infinity true => .lowest
  | .infinity false => .highest
  | .finite negative magnitude => .units (Binary64.signed negative magnitude)

def relate : Quantity → Quantity → Relation
  | .indefinite, _ => .unordered
  | _, .indefinite => .unordered
  | .units m, .units n => .ofOrder m n
  | .lowest, .lowest => .same
  | .highest, .highest => .same
  | .lowest, _ => .less
  | _, .lowest => .greater
  | .highest, _ => .greater
  | _, .highest => .less

end Quantity

end DataGateway
