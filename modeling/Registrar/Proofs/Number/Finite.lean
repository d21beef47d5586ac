import Registrar.Proofs.Number.Nearest

/-!
# Results that stay finite

Rounding keeps the order of ratios. So a result is finite if that of a larger ratio is, and for a
whole family of results only the largest one has to be looked at. That is how it is seen that
integers of 64 bits have a number next to them, that a finite number stays finite when it is divided
by a number from one on, and that small numbers may be added to it without end.

## Main definitions

* `Binary64.largest` — the largest finite number.
* `Binary64.FromZeroToFive` — the small numbers.

## Main results

* `Binary64.magnitude_ofRatio_mono` — rounding keeps the order of ratios.
* `Binary64.isFinite_ofRatio_of_le` — a ratio that is not above one that is rounded to a finite
  number.
* `Binary64.isFinite_ofInt` — integers of 64 bits are finite numbers.
* `Binary64.isFinite_div`, `Binary64.isFinite_add` — quotients and sums.
-/

namespace Registrar

variable {num den num' den' : Nat}

/-! ### Larger quotients -/

theorem divEven_congr (hden : 0 < den) (hden' : 0 < den') (h : num * den' = num' * den) :
    divEven num den = divEven num' den' := by
  have hscaled : divEven (num * den') (den * den') = divEven num den := divEven_mul_right hden'
  rw [← hscaled, h, Nat.mul_comm den, divEven_mul_right hden]

/-- A larger quotient is not rounded to less. -/
theorem divEven_mono (hden : 0 < den) (hden' : 0 < den') (h : num * den' ≤ num' * den) :
    divEven num den ≤ divEven num' den' := by
  obtain hlt | heq := Nat.lt_or_eq_of_le h
  · refine divEven_le hden (Nat.lt_of_mul_lt_mul_right (a := den') ?_)
    obtain ⟨hnear, -⟩ := divEven_near num' hden'
    calc 2 * num * den' = 2 * (num * den') := Nat.mul_assoc _ _ _
      _ < 2 * (num' * den) := Nat.mul_lt_mul_of_pos_left hlt (by decide)
      _ = 2 * num' * den := (Nat.mul_assoc _ _ _).symm
      _ ≤ (2 * (divEven num' den' * den') + den') * den := Nat.mul_le_mul_right den hnear
      _ = (2 * divEven num' den' + 1) * den * den' := by ring
  · exact (divEven_congr hden hden' heq).le

namespace Binary64

variable {x y : Binary64} {negative negative' : Bool}

/-! ### Larger ratios -/

/-- **A larger ratio is not rounded to less.** On one scale it is the digits that tell, and on a
smaller scale there are not enough digits to get further. -/
theorem magnitude_ofRatio_mono (negative negative' : Bool) (hden : 0 < den) (hden' : 0 < den')
    (h : num * den' ≤ num' * den) :
    (ofRatio negative num den).magnitude ≤ (ofRatio negative' num' den').magnitude := by
  have hscaled : num * unitsPerOne * den' ≤ num' * unitsPerOne * den := by
    rw [Nat.mul_right_comm, Nat.mul_right_comm num']
    exact Nat.mul_le_mul_right _ h
  rw [magnitude_ofRatio, magnitude_ofRatio]
  generalize num * unitsPerOne = scaled at hscaled ⊢
  generalize num' * unitsPerOne = scaled' at hscaled ⊢
  obtain ⟨scale, hscale⟩ : ∃ scale, (scaled / den).log2 - 52 = scale := ⟨_, rfl⟩
  obtain ⟨scale', hscale'⟩ : ∃ scale, (scaled' / den').log2 - 52 = scale := ⟨_, rfl⟩
  obtain ⟨hbelow, habove⟩ := scale_bounds scaled hden hscale
  obtain ⟨hbelow', habove'⟩ := scale_bounds scaled' hden' hscale'
  rw [hscale, hscale']
  refine min_le_min_right _ ?_
  have hdigit : 0 < den * twoPow scale := Nat.mul_pos hden (twoPow_pos _)
  have hdigit' : 0 < den' * twoPow scale' := Nat.mul_pos hden' (twoPow_pos _)
  obtain hlt | rfl | hgt := Nat.lt_trichotomy scale scale'
  · have hdigits : divEven scaled (den * twoPow scale) ≤ twoPow 53 :=
      divEven_le hdigit (by linarith)
    have hdigits' : twoPow 52 ≤ divEven scaled' (den' * twoPow scale') :=
      ((Nat.le_div_iff_mul_le hdigit').mpr (habove'.resolve_left (Nat.ne_of_gt
        (Nat.zero_lt_of_lt hlt)))).trans (div_le_divEven _ _)
    have hdouble : twoPow 53 = 2 * twoPow 52 := rfl
    have hscales := Nat.mul_le_mul_right (twoPow 52) (Nat.succ_le_of_lt hlt)
    rw [Nat.succ_mul] at hscales
    omega
  · refine Nat.add_le_add_left (divEven_mono hdigit hdigit' ?_) _
    rw [← Nat.mul_assoc, ← Nat.mul_assoc]
    exact Nat.mul_le_mul_right _ hscaled
  · -- The larger ratio would be below all that is rounded on the scale of the smaller one.
    have hsmaller : scaled' * den < scaled * den' := by
      calc scaled' * den < twoPow 53 * (den' * twoPow scale') * den :=
            Nat.mul_lt_mul_of_pos_right hbelow' hden
        _ = twoPow 53 * twoPow scale' * (den * den') := by ring
        _ = twoPow 52 * twoPow (scale' + 1) * (den * den') := by rw [twoPow_mul_twoPow]
        _ ≤ twoPow 52 * twoPow scale * (den * den') :=
          Nat.mul_le_mul_right _ (Nat.mul_le_mul_left _ (twoPow_le_twoPow hgt))
        _ = twoPow 52 * (den * twoPow scale) * den' := by ring
        _ ≤ scaled * den' := Nat.mul_le_mul_right _
          (habove.resolve_left (Nat.ne_of_gt (Nat.zero_lt_of_lt hgt)))
    omega

/-- The largest finite number. -/
def largest : Binary64 := ofMagnitude false (infiniteMagnitude - 1)

theorem magnitude_largest : largest.magnitude = 2045 * twoPow 52 + (twoPow 53 - 1) := by
  decide

theorem units_largest : largest.units = (twoPow 53 - 1) * twoPow 2045 := by
  have hsignificand : largest.significand = twoPow 53 - 1 := by decide
  have hexponent : largest.exponent = 2045 := by decide
  rw [units, hsignificand, hexponent]

theorem twoPow_le_largest {k : Nat} (h : k ≤ 1023) : twoPow k * unitsPerOne ≤ largest.units := by
  rw [units_largest, unitsPerOne, ← twoPow_add]
  calc twoPow (k + 1074) ≤ twoPow (52 + 2045) := twoPow_le_twoPow (by omega)
    _ = twoPow 52 * twoPow 2045 := twoPow_add 52 2045
    _ ≤ (twoPow 53 - 1) * twoPow 2045 := Nat.mul_le_mul_right _ (by decide)

theorem units_largest_lt : largest.units < twoPow 1024 * unitsPerOne := by
  rw [units_largest]
  calc (twoPow 53 - 1) * twoPow 2045
      < twoPow 53 * twoPow 2045 :=
        Nat.mul_lt_mul_of_pos_right (Nat.sub_lt (twoPow_pos 53) Nat.one_pos) (twoPow_pos 2045)
    _ = twoPow 1024 * unitsPerOne := by rw [unitsPerOne, ← twoPow_add, ← twoPow_add]

theorem isFinite_iff : x.isFinite = true ↔ x.magnitude ≤ largest.magnitude := by
  have hmagnitude : largest.magnitude = infiniteMagnitude - 1 :=
    magnitude_ofMagnitude (by decide)
  have hpos : 0 < infiniteMagnitude := by decide
  rw [hmagnitude, isFinite, decide_eq_true_iff]
  omega

theorem units_le_largest (h : x.isFinite = true) : x.units ≤ largest.units :=
  units_le_units_iff.mpr (isFinite_iff.mp h)

theorem ofRatio_largest : ofRatio false largest.units unitsPerOne = largest := by
  decide +kernel

/-- A ratio that is not above the largest number is not rounded to infinity. -/
theorem isFinite_ofRatio (hden : 0 < den) (h : num * unitsPerOne ≤ largest.units * den) :
    (ofRatio negative num den).isFinite = true := by
  refine isFinite_iff.mpr ?_
  have hle := magnitude_ofRatio_mono negative false hden (twoPow_pos 1074) h
  rwa [← unitsPerOne, ofRatio_largest] at hle

/-- A ratio that is not above one that is rounded to a finite number is rounded to one, too. -/
theorem isFinite_ofRatio_of_le (negative : Bool) (hden : 0 < den) (hden' : 0 < den')
    (h : num * den' ≤ num' * den)
    (hfinite : (ofRatio negative' num' den').isFinite = true) :
    (ofRatio negative num den).isFinite = true :=
  isFinite_iff.mpr ((magnitude_ofRatio_mono _ _ hden hden' h).trans (isFinite_iff.mp hfinite))

theorem isFinite_neg (h : x.isFinite = true) : x.neg.isFinite = true := by
  have hlt : x.magnitude < infiniteMagnitude := by simpa [isFinite] using h
  rw [isFinite, neg, magnitude_ofMagnitude (hlt.trans infiniteMagnitude_lt)]
  exact decide_eq_true hlt

/-! ### Products and quotients of finite numbers -/

theorem mul_of_isFinite (hx : x.isFinite = true) (hy : y.isFinite = true) :
    x.mul y = ofRatio (x.negative != y.negative) (x.units * y.units)
      (unitsPerOne * unitsPerOne) := by
  rw [mul, isNaN_eq_false hx, isNaN_eq_false hy, hx, hy]
  rfl

theorem div_of_isFinite (hx : x.isFinite = true) (hy : y.isFinite = true)
    (hzero : y.isZero = false) :
    x.div y = ofRatio (x.negative != y.negative) x.units y.units := by
  rw [div, isNaN_eq_false hx, isNaN_eq_false hy, hx, hy, hzero]
  rfl

theorem isZero_eq_false_of_le (h : unitsPerOne ≤ y.units) : y.isZero = false := by
  have hpos := unitsPerOne_pos
  refine beq_false_of_ne fun hzero => ?_
  rw [units_eq_zero_iff.mpr hzero] at h
  omega

/-- Dividing by a number from one on does not make a number larger. -/
theorem isFinite_div (hx : x.isFinite = true) (hy : y.isFinite = true)
    (hone : unitsPerOne ≤ y.units) : (x.div y).isFinite = true := by
  rw [div_of_isFinite hx hy (isZero_eq_false_of_le hone)]
  exact isFinite_ofRatio (Nat.lt_of_lt_of_le unitsPerOne_pos hone)
    (Nat.mul_le_mul (units_le_largest hx) hone)

/-! ### Integers and sums -/

theorem isFinite_ofNat_of_le_twoPow {n k : Nat} (h : n ≤ twoPow k) (hk : k ≤ 1023) :
    (ofNat n).isFinite = true := by
  refine isFinite_ofRatio Nat.one_pos ?_
  rw [Nat.mul_one]
  exact (Nat.mul_le_mul_right _ h).trans (twoPow_le_largest hk)

theorem isFinite_ofNat {n : Nat} (h : n < twoPow 64) : (ofNat n).isFinite = true :=
  isFinite_ofNat_of_le_twoPow h.le (by decide)

/-- Every integer of 64 bits has a number next to it. -/
theorem isFinite_ofInt {n : Int} (low : -(twoPow 63 : Int) ≤ n) (high : n < twoPow 64) :
    (ofInt n).isFinite = true := by
  have hsmaller : twoPow 63 < twoPow 64 := by decide
  have habs : n.natAbs < twoPow 64 := by omega
  exact isFinite_ofRatio_of_le _ Nat.one_pos Nat.one_pos (Nat.le_refl _) (isFinite_ofNat habs)

/-- A number from zero to five. -/
structure FromZeroToFive (x : Binary64) : Prop where
  finite : x.isFinite = true
  nonneg : 0 ≤ x.signedUnits
  le : x.signedUnits ≤ 5 * unitsPerOne

theorem natAbs_signedUnits (x : Binary64) : x.signedUnits.natAbs = x.units := by
  rw [signedUnits]
  split <;> omega

/-- **A number from zero to five may be added to every finite number.** -/
theorem isFinite_add (hx : x.isFinite = true) (hy : y.FromZeroToFive) :
    (x.add y).isFinite = true := by
  have hlast : (ofRatio false (largest.units + 5 * unitsPerOne) unitsPerOne).isFinite = true := by
    decide +kernel
  have hsum : (x.signedUnits + y.signedUnits).natAbs ≤ largest.units + 5 * unitsPerOne := by
    have hsize := x.natAbs_signedUnits
    have hlargest := units_le_largest hx
    have hlow := hy.nonneg
    have hhigh := hy.le
    omega
  rw [add, isNaN_eq_false hx, isNaN_eq_false hy.finite, hx, hy.finite]
  simp only [Bool.or_self, Bool.false_eq_true, if_false, Bool.not_true]
  split
  · rw [isFinite, magnitude_ofMagnitude (by decide)]
    decide
  · exact isFinite_ofRatio_of_le _ unitsPerOne_pos unitsPerOne_pos
      (Nat.mul_le_mul_right _ hsum) hlast

end Binary64

end Registrar
