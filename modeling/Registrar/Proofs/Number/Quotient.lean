import Registrar.Proofs.Number.Exact
import Registrar.Proofs.Number.Order

/-!
# Quotients rounded twice

A quotient by a count is rounded to as many digits as fit, and the result is rounded again to the
places that are reported. Rounding twice is not rounding once: a quotient just below a midpoint of
two reported numbers could be moved onto the midpoint first and away from zero then.

Here this does not happen, if there is room. A quotient `num / den` that is below such a midpoint is
below it by at least `1 / (2 · den · 10 ^ places)`. When more digits are kept than `den` has, that
is more than the first rounding can move the quotient. And a quotient on a midpoint, or above it, is
not moved below it, because the midpoint is itself a decimal with so many digits.

## Main definitions

* `IsNear` — a decimal is within half a unit of a quotient.

## Main results

* `IsNear.divAway_eq` — rounding a decimal near a quotient is rounding the quotient.
* `Decimal96.exists_divNat?` — a quotient is exact or near, with a bound on the digits kept.
-/

namespace Registrar

/-! ### Nearest -/

/-- The decimal `rounded / 10 ^ scale` is within half a unit of its last digit of `num / den`. -/
structure IsNear (rounded scale num den : Nat) : Prop where
  low : 2 * (num * tenPow scale) ≤ 2 * (rounded * den) + den
  high : 2 * (rounded * den) ≤ 2 * (num * tenPow scale) + den

theorem divEven_near (num : Nat) {den : Nat} (hden : 0 < den) :
    2 * num ≤ 2 * (divEven num den * den) + den ∧
      2 * (divEven num den * den) ≤ 2 * num + den := by
  have hdiv := Nat.div_add_mod' num den
  have hmod := Nat.mod_lt num hden
  rw [divEven]
  generalize num / den = quotient at hdiv ⊢
  generalize num % den = rest at hdiv hmod ⊢
  split
  · omega
  split
  · rw [Nat.add_mul, Nat.one_mul]
    omega
  · obtain heven | hodd := Nat.mod_two_eq_zero_or_one quotient
    · rw [heven, Nat.add_zero]
      omega
    · rw [hodd, Nat.add_mul, Nat.one_mul]
      omega

theorem isNear_divEven (num scale extra : Nat) {den : Nat} (hden : 0 < den) :
    IsNear (divEven (num * tenPow extra) den) (scale + extra) num (den * tenPow scale) := by
  obtain ⟨hlow, hhigh⟩ := divEven_near (num * tenPow extra) hden
  have hnum : num * tenPow (scale + extra) = num * tenPow extra * tenPow scale := by
    rw [Nat.add_comm, tenPow_add, Nat.mul_assoc]
  generalize num * tenPow extra = exact at hlow hhigh hnum
  generalize divEven exact den = rounded at hlow hhigh ⊢
  have hlow' := Nat.mul_le_mul_right (tenPow scale) hlow
  have hhigh' := Nat.mul_le_mul_right (tenPow scale) hhigh
  constructor <;> rw [hnum] <;> linarith

/-- Dropping the last digit leaves the decimal near the quotient, unless that digit is a five. -/
theorem IsNear.dropDigit {rounded tens scale num den : Nat} (h : IsNear rounded (scale + 1) num den)
    (hlow : rounded ≤ 10 * tens + 4) (hhigh : 10 * tens ≤ rounded + 4) :
    IsNear tens scale num den := by
  have hlow' := h.low
  have hhigh' := h.high
  rw [tenPow_succ] at hlow' hhigh'
  have hbelow := Nat.mul_le_mul_right den hlow
  have habove := Nat.mul_le_mul_right den hhigh
  constructor <;> linarith

/-- **Rounding a decimal near a quotient is rounding the quotient.** -/
theorem IsNear.divAway_eq {rounded scale num den places : Nat} (h : IsNear rounded scale num den)
    (hden : 0 < den) (hplaces : places < scale) (hroom : den < tenPow (scale - places)) :
    divAway (rounded * tenPow places) (tenPow scale) = divAway (num * tenPow places) den := by
  -- A midpoint of the last reported place is a decimal of the given scale.
  obtain ⟨half, hhalf⟩ : ∃ half, tenPow (scale - places) = 2 * half := by
    obtain ⟨n, hn⟩ : ∃ n, scale - places = n + 1 := ⟨scale - places - 1, by omega⟩
    exact ⟨tenPow n * 5, by rw [hn, tenPow_succ]; omega⟩
  have hpower : tenPow scale = 2 * half * tenPow places := by
    rw [← hhalf, ← tenPow_add, Nat.sub_add_cancel hplaces.le]
  obtain ⟨hlow, hhigh⟩ := h
  rw [hpower, divAway_mul_right (tenPow_pos _)]
  rw [hpower, Nat.mul_left_comm num] at hlow hhigh
  rw [hhalf] at hroom
  generalize num * tenPow places = exact at hlow hhigh ⊢
  have hmod := Nat.lt_mul_div_succ (2 * exact + den) (Nat.mul_pos two_pos hden)
  have hdiv := Nat.mul_div_le (2 * exact + den) (2 * den)
  rw [divAway, divAway]
  generalize (2 * exact + den) / (2 * den) = result at hmod hdiv ⊢
  refine Nat.div_eq_of_lt_le ?_ ?_
  · -- The decimal is not below the midpoint before the result.
    suffices result * (2 * half) ≤ rounded + half by linarith
    by_contra hbelow
    have hgap := Nat.mul_le_mul_left (2 * den) (Nat.succ_le_of_lt (Nat.lt_of_not_le hbelow))
    have hscaled := Nat.mul_le_mul_left (2 * half) hdiv
    rw [Nat.succ_eq_add_one] at hgap
    linarith
  · -- The decimal is below the midpoint after the result.
    suffices rounded + half < (result + 1) * (2 * half) by linarith
    by_contra habove
    have hgap := Nat.mul_le_mul_left (2 * den) (Nat.le_of_not_lt habove)
    have hscaled := Nat.mul_le_mul_left (2 * half) (Nat.succ_le_of_lt hmod)
    rw [Nat.succ_eq_add_one] at hscaled
    linarith

namespace Decimal96

/-! ### Digits that are kept -/

/-- Taking zeros off the end does not change the value. -/
theorem value_stripZeros (fuel : Nat) (d : Decimal96) : (d.stripZeros fuel).value = d.value := by
  induction fuel generalizing d with
  | zero => rfl
  | succ fuel ih =>
    rw [stripZeros]
    split
    · next hstrip =>
      obtain ⟨hscale, hzero⟩ := hstrip
      obtain ⟨places, hplaces⟩ := Nat.exists_eq_succ_of_ne_zero hscale
      have hcoefficient : d.coefficient = d.coefficient / 10 * 10 := by omega
      rw [ih, value_eq, value_eq]
      dsimp only
      rw [hplaces, Nat.succ_sub_one, tenPow_succ]
      conv_rhs => rw [hcoefficient]
      rw [signedRatio_mul_right (by decide)]
    · rfl

/-- As many digits are kept as fit: there is no room for one more. -/
theorem extraDigits_full (num den fuel : Nat) :
    extraDigits num den fuel = fuel ∨
      coefficientBound ≤ num * tenPow (extraDigits num den fuel + 1) / den := by
  induction fuel with
  | zero => exact .inl rfl
  | succ fuel ih =>
    rw [extraDigits]
    split
    · exact .inl rfl
    · next hfull =>
      obtain heq | hmore := ih
      · exact .inr (heq.symm ▸ Nat.le_of_not_lt hfull)
      · exact .inr hmore

/-- What is kept fits before it is rounded. -/
theorem extraDigits_fits {num den : Nat} (fuel : Nat) (h : num / den < coefficientBound) :
    num * tenPow (extraDigits num den fuel) / den < coefficientBound := by
  induction fuel with
  | zero => rwa [extraDigits, tenPow_zero, Nat.mul_one]
  | succ fuel ih =>
    rw [extraDigits]
    split
    · next hfits => exact hfits
    · exact ih

/-! ### Quotients -/

/-- A size below `10 ^ digits` that is written with `28 - digits` places or more keeps at least so
many, since `2 ^ 96` is above `10 ^ 28`. -/
theorem le_scale_of_bound {num count digits scale extra : Nat}
    (hsize : num < count * tenPow (digits + scale))
    (hbound : tenPow 28 * count ≤ num * tenPow extra) : 28 < digits + scale + extra := by
  by_contra hsmall
  have hpower : tenPow (digits + scale) * tenPow extra ≤ tenPow 28 := by
    rw [← tenPow_add]
    exact tenPow_le_tenPow (Nat.le_of_not_lt hsmall)
  have hless := Nat.mul_lt_mul_of_pos_right hsize (tenPow_pos extra)
  have hmore := Nat.mul_le_mul_left count hpower
  linarith

/-- The digits that are kept of a quotient below `10 ^ digits`. -/
theorem le_scale_add_extraDigits {num count digits scale : Nat} (hcount : 0 < count)
    (hroom : scale + digits ≤ 28) (hsize : num < count * tenPow (digits + scale)) :
    28 ≤ digits + (scale + extraDigits num count (maxScale - scale)) := by
  have habove : tenPow 28 ≤ coefficientBound := by decide
  obtain hall | hfull := extraDigits_full num count (maxScale - scale)
  · rw [hall, maxScale]
    omega
  · have hbound := habove.trans hfull
    rw [Nat.le_div_iff_mul_le hcount] at hbound
    have hscale := le_scale_of_bound hsize hbound
    omega

/-- A quotient that is rounded up to the bound loses its last digit, and is still near. -/
theorem isNear_tens_of_over {num count digits scale extra : Nat} (hcount : 0 < count)
    (hroom : scale + digits ≤ 28) (hsize : num < count * tenPow (digits + scale))
    (hfits : num * tenPow extra < coefficientBound * count)
    (hover : coefficientBound ≤ divEven (num * tenPow extra) count) :
    divEven (num * tenPow extra) count = coefficientBound ∧
      ∃ places, scale + extra = places + 1 ∧ 28 ≤ digits + places ∧
        IsNear (divEven coefficientBound 10) places num (count * tenPow scale) := by
  have hrounded : divEven (num * tenPow extra) count = coefficientBound :=
    Nat.le_antisymm (divEven_le hcount (by linarith)) hover
  have hnear := isNear_divEven num scale extra hcount
  have hlow := (divEven_near (num * tenPow extra) hcount).2
  rw [hrounded] at hnear hlow
  have hmore : 28 < digits + scale + extra := by
    refine le_scale_of_bound hsize ?_
    have habove := Nat.mul_le_mul_right count (by decide : tenPow 28 + 1 ≤ coefficientBound)
    linarith
  obtain ⟨places, hplaces⟩ : ∃ places, scale + extra = places + 1 :=
    ⟨scale + extra - 1, by omega⟩
  rw [hplaces] at hnear
  exact ⟨hrounded, places, hplaces, by omega,
    hnear.dropDigit (by decide +kernel) (by decide +kernel)⟩

/-- **A quotient is exact or near.** If the size of the quotient is below `10 ^ digits`, at least
`28 - digits` places are kept when it is near. -/
theorem exists_divNat? {a : Decimal96} {count digits : Nat} (hcount : 0 < count)
    (hroom : a.scale + digits ≤ 28) (hsize : a.coefficient < count * tenPow (digits + a.scale)) :
    ∃ quotient, a.divNat? count = some quotient ∧
      (quotient.value = signedRatio a.negative a.coefficient (count * tenPow a.scale) ∨
        ∃ rounded scale, quotient.value = signedRatio a.negative rounded (tenPow scale) ∧
          28 ≤ digits + scale ∧ IsNear rounded scale a.coefficient (count * tenPow a.scale)) := by
  rw [divNat?, if_neg hcount.ne']
  split
  · next hzero =>
    refine ⟨zero, rfl, .inl ?_⟩
    rw [isZero, beq_iff_eq] at hzero
    rw [value_zero, hzero, signedRatio_zero]
  split
  · next hexact =>
    refine ⟨_, rfl, .inl ?_⟩
    rw [value_eq, ← signedRatio_mul_right hcount,
      Nat.div_mul_cancel (Nat.dvd_of_mod_eq_zero hexact), Nat.mul_comm count]
  dsimp only
  have hkept := le_scale_add_extraDigits hcount hroom hsize
  have hfits : a.coefficient * tenPow (extraDigits a.coefficient count (maxScale - a.scale)) <
      coefficientBound * count := by
    rw [← Nat.div_lt_iff_lt_mul hcount]
    refine extraDigits_fits _ ((Nat.div_lt_of_lt_mul hsize).trans_le ?_)
    exact (tenPow_le_tenPow (by omega)).trans (by decide : tenPow 28 ≤ coefficientBound)
  generalize extraDigits a.coefficient count (maxScale - a.scale) = extra at hkept hfits ⊢
  split
  · refine ⟨_, rfl, .inr ⟨_, _, ?_, hkept, isNear_divEven _ a.scale extra hcount⟩⟩
    rw [value_stripZeros, value_unsignedZero]
  · next hover =>
    obtain ⟨hrounded, places, hplaces, hmore, hnear⟩ :=
      isNear_tens_of_over hcount hroom hsize hfits (Nat.le_of_not_lt hover)
    rw [hrounded, hplaces, if_neg (Nat.succ_ne_zero _), Nat.add_sub_cancel]
    refine ⟨_, rfl, .inr ⟨_, places, ?_, hmore, hnear⟩⟩
    rw [value_stripZeros, value_unsignedZero]

/-! ### Quotients with the reported places -/

theorem value_div (a : Decimal96) {count : Nat} :
    a.value / count = signedRatio a.negative a.coefficient (count * tenPow a.scale) := by
  rw [value_eq, signedRatio, signedRatio]
  push_cast
  split
  · rw [neg_div, div_div, mul_comm (tenPow a.scale : ℚ)]
  · rw [div_div, mul_comm (tenPow a.scale : ℚ)]

theorem coefficient_lt_of_abs_value_lt {a : Decimal96} {size : Nat} (h : |a.value| < size) :
    a.coefficient < size * tenPow a.scale := by
  have hpower : (0 : ℚ) < tenPow a.scale := Nat.cast_pos.mpr (tenPow_pos _)
  rw [value_eq, abs_signedRatio, div_lt_iff₀ hpower] at h
  exact_mod_cast h

/-- **A quotient is rounded once.** If there is room for `digits` digits, the digits of the divisor
and its scale, and the reported places, the reported quotient is the exact one, rounded. -/
theorem exists_roundPlaces_divNat? {a : Decimal96} {count digits : Nat} (places : Nat)
    (hcount : 0 < count) (hsize : |a.value| < count * tenPow digits)
    (hroom : count * tenPow a.scale * tenPow (digits + places) < tenPow 28) :
    ∃ quotient, a.divNat? count = some quotient ∧
      (quotient.roundPlaces places).value = roundHalfAway places (a.value / count) := by
  have hden : 0 < count * tenPow a.scale := Nat.mul_pos hcount (tenPow_pos _)
  have hdigits : digits + places < 28 :=
    lt_of_tenPow_lt ((Nat.le_mul_of_pos_left _ hden).trans_lt hroom)
  have hscale : a.scale + digits < 28 := by
    refine lt_of_tenPow_lt (lt_of_le_of_lt ?_ hroom)
    rw [tenPow_add]
    exact Nat.mul_le_mul (Nat.le_mul_of_pos_left _ hcount) (tenPow_le_tenPow (by omega))
  have hcoefficient : a.coefficient < count * tenPow (digits + a.scale) := by
    rw [tenPow_add, ← Nat.mul_assoc]
    exact coefficient_lt_of_abs_value_lt (by exact_mod_cast hsize)
  obtain ⟨quotient, hquotient, hvalue⟩ := exists_divNat? hcount hscale.le hcoefficient
  refine ⟨quotient, hquotient, ?_⟩
  rw [value_roundPlaces, value_div]
  obtain hexact | ⟨rounded, scale, hrounded, hkept, hnear⟩ := hvalue
  · rw [hexact]
  · have hfine : count * tenPow a.scale < tenPow (scale - places) := by
      refine Nat.lt_of_mul_lt_mul_right (a := tenPow (digits + places)) (hroom.trans_le ?_)
      rw [← tenPow_add]
      exact tenPow_le_tenPow (by omega)
    rw [hrounded, roundHalfAway_signedRatio _ (tenPow_pos _), roundHalfAway_signedRatio _ hden,
      hnear.divAway_eq hden (by omega) hfine]

end Decimal96

end Registrar
