/-!
# Powers

Powers of natural numbers, with the few laws that rounding needs: a power of two has one leading bit,
and powers of one base divide each other by the size of their exponents.
-/

namespace DataGateway

/-- The product of `n` factors `b`. -/
def power (b n : Nat) : Nat := Nat.pow b n

theorem power_pos {b : Nat} (h : 0 < b) (n : Nat) : 0 < power b n := Nat.pow_pos h

theorem power_add (b m n : Nat) : power b (m + n) = power b m * power b n := Nat.pow_add b m n

theorem power_dvd_power (b : Nat) {m n : Nat} (h : m ≤ n) : power b m ∣ power b n :=
  Nat.pow_dvd_pow b h

theorem power_le_power {b m n : Nat} (pos : 0 < b) (h : m ≤ n) : power b m ≤ power b n :=
  Nat.pow_le_pow_right pos h

theorem log2_power (n : Nat) : (power 2 n).log2 = n := Nat.log2_two_pow

theorem log2_lt_of_lt_power {n k : Nat} (hn : n ≠ 0) (h : n < power 2 k) : n.log2 < k :=
  (Nat.log2_lt hn).2 h

theorem lt_power_log2_add_one (n : Nat) : n < power 2 (n.log2 + 1) := Nat.lt_log2_self

end DataGateway
