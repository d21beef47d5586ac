import Registrar.Proofs.Number.Value

/-!
# Exact decimal arithmetic

Reading a decimal and adding two of them lose digits only where the exact result does not fit. This
module says when it fits, in terms of values and of one scale that all decimals stay within: a value
below `2 ^ 96 / 10 ^ scale` has a coefficient below `2 ^ 96` at every scale up to the given one, so
that no digit has to go, whichever scales the terms come with.

## Main results

* `Decimal96.exists_ofDecimal?` — a decimal that fits is read as it is.
* `Decimal96.exists_add?` — a sum that fits is exact.
-/

namespace Registrar

theorem divEven_one (n : Nat) : divEven n 1 = n := by
  simp [divEven, Nat.mod_one]

/-- A value, at a scale not below the decimal's own. -/
theorem Decimal.abs_value_mul {d : Decimal} {scale : Nat} (h : d.scale ≤ scale) :
    |d.value| * tenPow scale = ((d.coefficient * tenPow (scale - d.scale) : ℕ) : ℚ) := by
  have hne : (tenPow d.scale : ℚ) ≠ 0 := by
    have := tenPow_pos d.scale
    positivity
  have hpower : tenPow scale = tenPow (scale - d.scale) * tenPow d.scale := by
    rw [← tenPow_add, Nat.sub_add_cancel h]
  rw [Decimal.value, abs_signedRatio, hpower]
  push_cast
  field_simp

/-- A decimal that fits at some scale fits at its own. -/
theorem Decimal.coefficient_lt {d : Decimal} {scale : Nat} (h : d.scale ≤ scale)
    (hfit : |d.value| * tenPow scale < coefficientBound) : d.coefficient < coefficientBound := by
  rw [abs_value_mul h, Nat.cast_lt] at hfit
  exact (Nat.le_mul_of_pos_right _ (tenPow_pos _)).trans_lt hfit

namespace Decimal96

/-! ### Nothing to drop -/

theorem digitsOver_of_lt {coefficient : Nat} (fuel : Nat) (h : coefficient < coefficientBound) :
    digitsOver coefficient fuel 0 = 0 := by
  cases fuel with
  | zero => rfl
  | succ fuel => rw [digitsOver, tenPow_zero, Nat.div_one, if_pos h]

/-- A coefficient that fits is kept. -/
theorem fit?_of_lt {coefficient : Nat} (negative : Bool) (scale : Nat)
    (h : coefficient < coefficientBound) :
    fit? negative coefficient scale = some (unsignedZero negative coefficient scale) := by
  rw [fit?, digitsOver_of_lt _ h, tenPow_zero, divEven_one, if_neg (Nat.not_lt_zero _), if_pos h]
  rfl

/-- A decimal that fits is read as it is. -/
theorem exists_ofDecimal? {d : Decimal} {scale : Nat} (hmax : scale ≤ maxScale)
    (hscale : d.scale ≤ scale) (hfit : |d.value| * tenPow scale < coefficientBound) :
    ∃ read, ofDecimal? d = some read ∧ read.value = d.value ∧ read.scale ≤ scale := by
  have hdrop : d.scale - maxScale = 0 := by omega
  refine ⟨unsignedZero d.negative d.coefficient d.scale, ?_, value_unsignedZero, hscale⟩
  rw [ofDecimal?, hdrop, digitsOver_of_lt _ (Decimal.coefficient_lt hscale hfit), if_pos rfl]

/-! ### Sums -/

theorem value_of_isZero {d : Decimal96} (h : d.isZero = true) : d.value = 0 := by
  rw [isZero, beq_iff_eq] at h
  rw [value_eq, h, signedRatio_zero]

/-- A coefficient with its sign is the value at the scale. -/
theorem cast_signedAt {d : Decimal96} {scale : Nat} (h : d.scale ≤ scale) :
    (d.signedAt scale : ℚ) = d.value * tenPow scale := by
  have hsize := Decimal.abs_value_mul (d := d.toDecimal) h
  rw [Decimal.value, abs_signedRatio, toDecimal] at hsize
  rw [signedAt, value_eq, signedRatio]
  cases d.negative
  · simpa using hsize.symm
  · simpa using hsize.symm

/-- **A sum that fits is exact.** -/
theorem exists_add? {a b : Decimal96} {scale : Nat} (ha : a.scale ≤ scale) (hb : b.scale ≤ scale)
    (hfit : (|a.value| + |b.value|) * tenPow scale < coefficientBound) :
    ∃ total, a.add? b = some total ∧ total.value = a.value + b.value ∧ total.scale ≤ scale := by
  rw [add?]
  split
  · next hzero => exact ⟨b, rfl, by rw [value_of_isZero hzero, zero_add], hb⟩
  split
  · next hzero => exact ⟨a, rfl, by rw [value_of_isZero hzero, add_zero], ha⟩
  dsimp only
  have htop : max a.scale b.scale ≤ scale := max_le ha hb
  have hsum : ((a.signedAt (max a.scale b.scale) + b.signedAt (max a.scale b.scale) : ℤ) : ℚ) =
      (a.value + b.value) * tenPow (max a.scale b.scale) := by
    rw [Int.cast_add, cast_signedAt (le_max_left _ _), cast_signedAt (le_max_right _ _), add_mul]
  have hpower : (0 : ℚ) < tenPow (max a.scale b.scale) := Nat.cast_pos.mpr (tenPow_pos _)
  generalize a.signedAt _ + b.signedAt _ = sum at hsum ⊢
  have hvalue : a.value + b.value = sum / tenPow (max a.scale b.scale) := by
    rw [hsum, mul_div_cancel_right₀ _ hpower.ne']
  split
  · next hcancel =>
    refine ⟨_, rfl, ?_, htop⟩
    rw [hvalue, hcancel, value_eq]
    simp
  · have hsize : sum.natAbs < coefficientBound := by
      rw [← Nat.cast_lt (α := ℚ), Nat.cast_natAbs, Int.cast_abs, hsum, abs_mul,
        abs_of_pos hpower]
      calc |a.value + b.value| * (tenPow (max a.scale b.scale) : ℚ)
          ≤ (|a.value| + |b.value|) * tenPow scale := by
            gcongr
            · exact abs_add_le _ _
            · exact tenPow_le_tenPow htop
        _ < coefficientBound := hfit
    refine ⟨_, fit?_of_lt _ _ hsize, ?_, htop⟩
    rw [value_unsignedZero, signedRatio_natAbs, hvalue]

end Decimal96

end Registrar
