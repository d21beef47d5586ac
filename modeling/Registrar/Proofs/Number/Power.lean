import Registrar.Number.Power

/-!
# Powers of two against powers of ten

The sizes of machine numbers are bounded by powers of two, and decimals are counted by powers of
ten. The two are compared through `10 ^ 59 ≤ 2 ^ 196` and `2 ^ 93 ≤ 10 ^ 28`, which is close enough
for all sizes that 64 bits can hold.

## Main results

* `twoPow_le_tenPow`, `tenPow_le_twoPow` — comparisons of powers by their exponents.
-/

namespace Registrar

theorem twoPow_add (m n : Nat) : twoPow (m + n) = twoPow m * twoPow n :=
  Nat.pow_add 2 m n

theorem twoPow_le_twoPow {m n : Nat} (h : m ≤ n) : twoPow m ≤ twoPow n :=
  Nat.pow_le_pow_right (by decide) h

theorem twoPow_lt_twoPow {m n : Nat} (h : m < n) : twoPow m < twoPow n :=
  Nat.pow_lt_pow_right (by decide) h

theorem tenPow_add (m n : Nat) : tenPow (m + n) = tenPow m * tenPow n :=
  Nat.pow_add 10 m n

theorem tenPow_le_tenPow {m n : Nat} (h : m ≤ n) : tenPow m ≤ tenPow n :=
  Nat.pow_le_pow_right (by decide) h

theorem lt_of_tenPow_lt {m n : Nat} (h : tenPow m < tenPow n) : m < n :=
  Nat.lt_of_not_le fun hle => absurd h (Nat.not_lt_of_le (tenPow_le_tenPow hle))

/-- A power of two is at most a power of ten whose exponent is at least `28 / 93` of its own. -/
theorem twoPow_le_tenPow {m n : Nat} (h : 28 * m ≤ 93 * n) : twoPow m ≤ tenPow n := by
  refine (Nat.pow_le_pow_iff_left (n := 28) (by decide)).mp ?_
  calc (2 ^ m) ^ 28 = 2 ^ (28 * m) := by rw [← Nat.pow_mul, Nat.mul_comm]
    _ ≤ 2 ^ (93 * n) := Nat.pow_le_pow_right (by decide) h
    _ = (2 ^ 93) ^ n := Nat.pow_mul 2 93 n
    _ ≤ (10 ^ 28) ^ n := Nat.pow_le_pow_left (by decide) n
    _ = (10 ^ n) ^ 28 := by rw [← Nat.pow_mul, ← Nat.pow_mul, Nat.mul_comm]

/-- A power of ten is at most a power of two whose exponent is at least `196 / 59` of its own. -/
theorem tenPow_le_twoPow {m n : Nat} (h : 196 * m ≤ 59 * n) : tenPow m ≤ twoPow n := by
  refine (Nat.pow_le_pow_iff_left (n := 59) (by decide)).mp ?_
  calc (10 ^ m) ^ 59 = (10 ^ 59) ^ m := by rw [← Nat.pow_mul, ← Nat.pow_mul, Nat.mul_comm]
    _ ≤ (2 ^ 196) ^ m := Nat.pow_le_pow_left (by decide) m
    _ = 2 ^ (196 * m) := (Nat.pow_mul 2 196 m).symm
    _ ≤ 2 ^ (59 * n) := Nat.pow_le_pow_right (by decide) h
    _ = (2 ^ n) ^ 59 := by rw [← Nat.pow_mul, Nat.mul_comm]

end Registrar
