import Registrar.Number.Stepwise
import Registrar.Proofs.Number.Finite
import Registrar.Proofs.Number.Shortest

/-!
# Reading step by step stays finite

Reading a decimal step by step need not give the nearest number, but it gives a finite one, or none
at all. None is given if the product with a power of ten is too large, and this does not happen for
the shortest decimal of a finite number. Close to the largest number there is not much room: a
decimal of 20 digits below it can be rounded up in both steps and end up too large. A shortest
decimal has fewer digits.

Two things are needed for this. Rounding keeps the order of ratios, so that only the largest
products with the largest powers of ten have to be looked at. And the search for the shortest
decimal stops at the first grid that is finer than the last binary digit, which bounds its digits.

## Main results

* `Binary64.isFinite_of_ofDigits?` — what is read is finite.
* `Binary64.ofDigits?_of_lt` — digits that fit 64 bits are all taken in.
* `Binary64.scaled?_of_short` — when the nearest number is read.
* `Binary64.coefficient_shortest_lt` — a shortest decimal has few digits.
* `Binary64.exists_scaled?_shortest` — the shortest decimal of a finite number is read.
-/

namespace Registrar

namespace Binary64

variable {x y : Binary64}

/-! ### The steps -/

theorem isFinite_ofNat_of_le {m n : Nat} (h : m ≤ n) (hn : (ofNat n).isFinite = true) :
    (ofNat m).isFinite = true :=
  isFinite_ofRatio_of_le _ Nat.one_pos Nat.one_pos (Nat.mul_le_mul_right 1 h) hn

theorem units_ofNat_mono {m n : Nat} (h : m ≤ n) : (ofNat m).units ≤ (ofNat n).units :=
  units_le_units_iff.mpr
    (magnitude_ofRatio_mono _ _ Nat.one_pos Nat.one_pos (Nat.mul_le_mul_right 1 h))

theorem units_ofNat_one : (ofNat 1).units = unitsPerOne := by
  rw [(units_ofNat (by decide)).2, Nat.one_mul]

theorem isFinite_powerOfTenNumber_largestPower :
    (powerOfTenNumber largestPower).isFinite = true := by
  decide +kernel

/-- The powers of ten that are used are numbers from one on. -/
theorem powerOfTenNumber_bounds {exponent : Nat} (h : exponent ≤ largestPower) :
    (powerOfTenNumber exponent).isFinite = true ∧
      unitsPerOne ≤ (powerOfTenNumber exponent).units :=
  ⟨isFinite_ofNat_of_le (tenPow_le_tenPow h) isFinite_powerOfTenNumber_largestPower,
    units_ofNat_one ▸ units_ofNat_mono (tenPow_pos exponent)⟩

theorem isFinite_shrink (steps : Nat) (h : x.isFinite = true) :
    (shrink steps x).isFinite = true := by
  induction steps generalizing x with
  | zero => exact h
  | succ steps ih =>
    obtain ⟨hfinite, hone⟩ := powerOfTenNumber_bounds (Nat.le_refl largestPower)
    rw [shrink]
    split
    · exact h
    · exact ih (isFinite_div h hfinite hone)

/-- A negative exponent never makes a number too large. -/
theorem scaled?_of_neg {significand : Nat} {exponent : Int} (hsignificand : significand < twoPow 64)
    (h : exponent < 0) : ∃ y, scaled? significand exponent = some y ∧ y.isFinite = true := by
  rw [scaled?, if_pos h]
  refine ⟨_, rfl, ?_⟩
  have hrest : (-exponent).toNat - ((-exponent).toNat - 1) / largestPower * largestPower ≤
      largestPower := by
    rw [largestPower]
    omega
  obtain ⟨hfinite, hone⟩ := powerOfTenNumber_bounds hrest
  exact isFinite_div (isFinite_shrink _ (isFinite_ofNat hsignificand)) hfinite hone

theorem isFinite_of_scaled? {significand : Nat} {exponent : Int}
    (hsignificand : significand < twoPow 64) (h : scaled? significand exponent = some y) :
    y.isFinite = true := by
  by_cases hneg : exponent < 0
  · obtain ⟨y', hy', hfinite⟩ := scaled?_of_neg hsignificand hneg
    rw [hy'] at h
    exact Option.some.inj h ▸ hfinite
  · rw [scaled?, if_neg hneg] at h
    dsimp only at h
    split at h
    · split at h
      · next hfinite => exact Option.some.inj h ▸ hfinite
      · cases h
    · split at h
      · exact Option.some.inj h ▸ isFinite_ofNat hsignificand
      · cases h

end Binary64

/-! ### Digits -/

namespace Significand

theorem value_take_lt {value : Nat} (digits : List Char) (h : value < twoPow 64) :
    (take value digits).value < twoPow 64 := by
  induction digits generalizing value with
  | nil => exact h
  | cons c digits ih =>
    rw [take]
    split
    · next hnext => exact ih hnext
    · exact h

/-- A number grows with the digits that are added to it. -/
theorem le_ofDigitChars (digits : List Char) (value : Nat) :
    value ≤ Nat.ofDigitChars 10 digits value := by
  rw [Nat.ofDigitChars_eq_ofDigitChars_zero]
  exact Nat.le_add_right_of_le (Nat.le_mul_of_pos_left value (Nat.pow_pos (by decide)))

/-- Digits that fit are all taken in. -/
theorem take_of_lt {value : Nat} {digits : List Char}
    (h : Nat.ofDigitChars 10 digits value < twoPow 64) :
    take value digits = ⟨Nat.ofDigitChars 10 digits value, []⟩ := by
  induction digits generalizing value with
  | nil => rfl
  | cons c digits ih =>
    rw [Nat.ofDigitChars_cons] at h ⊢
    rw [take, if_pos]
    · exact ih h
    · exact (le_ofDigitChars _ _).trans_lt h

end Significand

namespace Binary64

variable {x y : Binary64} {negative : Bool} {whole fraction : List Char} {exponent : Int}

/-- **What is read is finite.** -/
theorem isFinite_of_ofDigits? (h : ofDigits? negative whole fraction exponent = some y) :
    y.isFinite = true := by
  obtain ⟨z, hz, rfl⟩ := Option.map_eq_some_iff.mp h
  have hfits := Significand.value_take_lt fraction
    (Significand.value_take_lt whole (twoPow_pos 64))
  have hfinite := isFinite_of_scaled? hfits hz
  split
  · exact isFinite_neg hfinite
  · exact hfinite

/-- **Digits that fit 64 bits are all taken in.** -/
theorem ofDigits?_of_lt (h : natOfDigits (whole ++ fraction) < twoPow 64) :
    ofDigits? negative whole fraction exponent =
      (scaled? (natOfDigits (whole ++ fraction)) (exponent - fraction.length)).map fun x =>
        if negative then x.neg else x := by
  have hall : Nat.ofDigitChars 10 fraction (natOfDigits whole) = natOfDigits (whole ++ fraction) :=
    (natOfDigits_append whole fraction).symm
  have hbefore : Significand.take 0 whole = ⟨natOfDigits whole, []⟩ :=
    Significand.take_of_lt ((Significand.le_ofDigitChars fraction _).trans_lt (hall ▸ h))
  have hafter : Significand.take (natOfDigits whole) fraction =
      ⟨natOfDigits (whole ++ fraction), []⟩ := by
    rw [← hall]
    exact Significand.take_of_lt (hall ▸ h)
  rw [ofDigits?, hbefore, hafter]
  simp

/-! ### Steps that are not rounded -/

/-- Small powers of ten are numbers: they are odd numbers of 53 binary digits with zeros behind
them. -/
theorem units_powerOfTenNumber {exponent : Nat} (h : exponent ≤ 22) :
    (powerOfTenNumber exponent).units = tenPow exponent * unitsPerOne := by
  have hodd : 5 ^ exponent < twoPow 53 :=
    (Nat.pow_le_pow_right (by decide) h).trans_lt (by decide)
  have hpower : tenPow exponent = 5 ^ exponent * twoPow exponent := Nat.mul_pow 5 2 exponent
  rw [powerOfTenNumber, hpower]
  exact (units_ofNat_mul_twoPow hodd (by omega)).2

/-- **Only the last step is rounded** if there are few digits and the power of ten is a number, and
then the result is the nearest number. -/
theorem scaled?_of_short {significand : Nat} (hdigits : significand < twoPow 53)
    (hexponent : exponent.natAbs ≤ 22)
    (hfinite : (ofRatio false (significand * (powerOfTen exponent).1)
      (powerOfTen exponent).2).isFinite = true) :
    scaled? significand exponent = some (ofRatio false (significand * (powerOfTen exponent).1)
      (powerOfTen exponent).2) := by
  obtain ⟨hwhole, hunits⟩ := units_ofNat hdigits
  have hsmall : exponent.natAbs ≤ largestPower := hexponent.trans (by decide)
  obtain ⟨hten, hone⟩ := powerOfTenNumber_bounds hsmall
  have hpower := units_powerOfTenNumber hexponent
  have hunit := unitsPerOne_pos
  have hsign (k : Nat) : ((ofNat significand).negative != (powerOfTenNumber k).negative) =
      false := by
    rw [powerOfTenNumber, negative_ofNat, negative_ofNat]
    rfl
  rw [scaled?]
  dsimp only
  obtain hneg | hnonneg := Int.lt_or_le exponent 0
  · have hplaces : (-exponent).toNat = exponent.natAbs := by omega
    have hsteps : (exponent.natAbs - 1) / largestPower = 0 :=
      Nat.div_eq_of_lt (by rw [largestPower]; omega)
    rw [powerOfTen_of_neg hneg, if_pos hneg, hplaces, hsteps, Nat.zero_mul, Nat.sub_zero, shrink,
      div_of_isFinite hwhole hten (isZero_eq_false_of_le hone), hsign, hunits, hpower,
      ofRatio_mul_right _ _ _ hunit, Nat.mul_one]
  · have hplaces : exponent.toNat = exponent.natAbs := by omega
    have hproduct : (ofNat significand).mul (powerOfTenNumber exponent.natAbs) =
        ofRatio false (significand * tenPow exponent.natAbs) 1 := by
      rw [mul_of_isFinite hwhole hten, hsign, hunits, hpower, Nat.mul_mul_mul_comm,
        ← ofRatio_mul_right false _ 1 (Nat.mul_pos hunit hunit), Nat.one_mul]
    rw [powerOfTen_of_nonneg hnonneg, hplaces] at hfinite ⊢
    rw [if_neg (Int.not_lt.mpr hnonneg), if_pos (by omega), hproduct, if_pos hfinite]

/-! ### The digits of shortest decimals -/

/-- The first grid that is tried is not finer than a quarter of the last digit. -/
theorem first_grid_coarse {m e : Nat} (hm : 0 < m) (he : e < 2046) :
    let exponent : Int := (((m * twoPow e).log2 : Int) - 1074) * 30103 / 100000 + 1
    (powerOfTen exponent).2 * twoPow e ≤ (powerOfTen exponent).1 * twoPow 1076 := by
  have hlog : e ≤ (m * twoPow e).log2 := le_log2 (Nat.le_mul_of_pos_left _ hm)
  generalize (m * twoPow e).log2 = log at hlog
  intro exponent
  obtain hneg | hnonneg := Int.lt_or_le exponent 0
  · rw [powerOfTen_of_neg hneg, Nat.one_mul]
    calc tenPow (-exponent).toNat * twoPow e ≤ twoPow (1076 - e) * twoPow e :=
        Nat.mul_le_mul_right _ (tenPow_le_twoPow (by omega))
      _ = twoPow 1076 := by rw [← twoPow_add, Nat.sub_add_cancel (by omega)]
  · rw [powerOfTen_of_nonneg hnonneg, Nat.one_mul]
    calc twoPow e ≤ twoPow (e - 1076 + 1076) := twoPow_le_twoPow (by omega)
      _ = twoPow (e - 1076) * twoPow 1076 := twoPow_add _ _
      _ ≤ tenPow exponent.toNat * twoPow 1076 :=
        Nat.mul_le_mul_right _ (twoPow_le_tenPow (by omega))

/-- The search does not go further than to the first grid that is finer than a quarter of the last
digit, and each grid is ten times as fine as the one before. -/
theorem coefficient_searchGrids_le (tie : Tie) {n : Neighbourhood} (hlow : n.low < n.middle)
    (hhigh : n.middle < n.high) (fuel : Nat) {exponent : Int}
    (hcoarse : (powerOfTen exponent).2 * twoPow n.scale ≤
      10 * ((powerOfTen exponent).1 * twoPow 1076)) :
    (searchGrids tie n fuel exponent).coefficient ≤ 10 * n.high := by
  induction fuel generalizing exponent with
  | zero => exact Nat.zero_le _
  | succ fuel ih =>
    rw [searchGrids]
    split
    · next c hc =>
      have hpos : 0 < (powerOfTen exponent).1 * twoPow 1076 :=
        Nat.mul_pos (powerOfTen_pos exponent).1 (twoPow_pos _)
      have hcontains := contains_of_gridHit? hc
      have hbelow : c * (powerOfTen exponent).1 * twoPow 1076 ≤
          n.high * ((powerOfTen exponent).2 * twoPow n.scale) := by
        rw [Neighbourhood.contains_iff] at hcontains
        split at hcontains
        · exact hcontains.2
        · exact hcontains.2.le
      refine Nat.le_of_mul_le_mul_right ?_ hpos
      calc c * ((powerOfTen exponent).1 * twoPow 1076)
          = c * (powerOfTen exponent).1 * twoPow 1076 := (Nat.mul_assoc _ _ _).symm
        _ ≤ n.high * ((powerOfTen exponent).2 * twoPow n.scale) := hbelow
        _ ≤ n.high * (10 * ((powerOfTen exponent).1 * twoPow 1076)) :=
          Nat.mul_le_mul_left _ hcoarse
        _ = 10 * n.high * ((powerOfTen exponent).1 * twoPow 1076) := by ring
    · next hnone =>
      have hcoarser : (powerOfTen exponent).2 * twoPow n.scale ≤
          (powerOfTen exponent).1 * twoPow 1076 := by
        refine Nat.le_of_not_le fun hfine => ?_
        obtain ⟨c, hc⟩ := exists_gridHit? tie hlow hhigh hfine
        cases hnone.symm.trans hc
      refine ih (Nat.le_of_mul_le_mul_right ?_ (powerOfTen_pos exponent).2)
      have hstep := powerOfTen_succ (exponent - 1)
      rw [Int.sub_add_cancel] at hstep
      calc (powerOfTen (exponent - 1)).2 * twoPow n.scale * (powerOfTen exponent).2
          = (powerOfTen (exponent - 1)).2 * ((powerOfTen exponent).2 * twoPow n.scale) := by ring
        _ ≤ (powerOfTen (exponent - 1)).2 * ((powerOfTen exponent).1 * twoPow 1076) :=
          Nat.mul_le_mul_left _ hcoarser
        _ = (powerOfTen exponent).1 * (powerOfTen (exponent - 1)).2 * twoPow 1076 := by ring
        _ = 10 * ((powerOfTen (exponent - 1)).1 * twoPow 1076) * (powerOfTen exponent).2 := by
          rw [← hstep]
          ring

theorem coefficient_strip_le (fuel : Nat) (s : Scientific) :
    (s.strip fuel).coefficient ≤ s.coefficient := by
  induction fuel generalizing s with
  | zero => exact Nat.le_refl _
  | succ fuel ih =>
    rw [Scientific.strip]
    split
    · exact (ih _).trans (Nat.div_le_self _ _)
    · exact Nat.le_refl _

/-- **A shortest decimal has at most 18 digits**, and then they are not large. -/
theorem coefficient_shortest_lt (tie : Tie) (hfinite : x.isFinite = true) :
    (x.shortest tie).coefficient < 10 * twoPow 55 := by
  rw [shortest]
  split
  · exact Nat.mul_pos (by decide) (twoPow_pos 55)
  · next hzero =>
    have hpos := significand_pos (Bool.of_not_eq_true hzero)
    obtain ⟨hlow, hhigh⟩ := middle_bounds (Bool.of_not_eq_true hzero)
    have hcoarse := first_grid_coarse hpos (exponent_lt hfinite)
    have hle := coefficient_searchGrids_le tie hlow hhigh 24
      (Nat.le_trans hcoarse (Nat.le_mul_of_pos_left _ (by decide)))
    have hstrip := coefficient_strip_le 24 (searchGrids tie x.neighbourhood 24
      (((x.units.log2 : Int) - 1074) * 30103 / 100000 + 1))
    have hsignificand := x.significand_lt
    have hpower : twoPow 55 = 4 * twoPow 53 := rfl
    have hends : x.neighbourhood.high = 4 * x.significand + 2 := rfl
    dsimp only
    rw [hends] at hle
    exact Nat.lt_of_le_of_lt (hstrip.trans hle) (by omega)

/-! ### The size of shortest decimals -/

/-- Between a number and the next one there is room for a whole last digit. -/
theorem succ_significand_le (h : x.magnitude < largest.magnitude) :
    (x.significand + 1) * twoPow x.exponent ≤ largest.units := by
  have hfinite : x.isFinite = true := isFinite_iff.mpr h.le
  have hexponent := exponent_lt hfinite
  have hsignificand := x.significand_lt
  have hdouble : twoPow 53 = 2 * twoPow 52 := rfl
  have hpos := twoPow_pos 52
  rw [units_largest]
  obtain hlast | hbefore := Nat.eq_or_lt_of_le (Nat.le_of_lt_succ hexponent)
  · rw [x.magnitude_eq, hlast, magnitude_largest] at h
    rw [hlast]
    exact Nat.mul_le_mul_right _ (by omega)
  · calc (x.significand + 1) * twoPow x.exponent
        ≤ twoPow 53 * twoPow x.exponent := Nat.mul_le_mul_right _ hsignificand
      _ = twoPow 52 * twoPow (x.exponent + 1) := twoPow_mul_twoPow _
      _ ≤ (twoPow 53 - 1) * twoPow 2045 :=
        Nat.mul_le_mul (by omega) (twoPow_le_twoPow hbefore)

theorem shortest_largest_le (tie : Tie) :
    (largest.shortest tie).coefficient * tenPow (largest.shortest tie).exponent.toNat *
      unitsPerOne ≤ largest.units := by
  cases tie <;> decide +kernel

/-- The shortest decimal of a number is not above the largest number. -/
theorem shortest_le_largest (tie : Tie) (hfinite : x.isFinite = true)
    (h : 0 ≤ (x.shortest tie).exponent) :
    (x.shortest tie).coefficient * tenPow (x.shortest tie).exponent.toNat * unitsPerOne ≤
      largest.units := by
  cases hzero : x.isZero with
  | true =>
    have hcoefficient : (x.shortest tie).coefficient = 0 := by rw [shortest, if_pos hzero]
    rw [hcoefficient, Nat.zero_mul, Nat.zero_mul]
    exact Nat.zero_le _
  | false =>
  obtain heq | hlt := Nat.eq_or_lt_of_le (isFinite_iff.mp hfinite)
  · rw [shortest_congr tie heq]
    exact shortest_largest_le tie
  · have hcovers := shortest_covers tie hfinite hzero
    rw [Covers, powerOfTen_of_nonneg h] at hcovers
    obtain ⟨-, hhigh, -, -⟩ := bounds_of_contains rfl rfl hcovers
    have hnext := succ_significand_le hlt
    rw [Nat.succ_mul] at hnext
    rw [Nat.one_mul] at hhigh
    dsimp only at hhigh
    omega

/-- A product is not rounded to infinity if one with larger factors is not. -/
theorem isFinite_mul_ofNat_of_le {m m' n n' : Nat} (hm : m ≤ m') (hn : n ≤ n')
    (hm' : (ofNat m').isFinite = true) (hn' : (ofNat n').isFinite = true)
    (h : ((ofNat m').mul (ofNat n')).isFinite = true) :
    ((ofNat m).mul (ofNat n)).isFinite = true := by
  have hpos : 0 < unitsPerOne * unitsPerOne := Nat.mul_pos unitsPerOne_pos unitsPerOne_pos
  rw [mul_of_isFinite hm' hn'] at h
  rw [mul_of_isFinite (isFinite_ofNat_of_le hm hm') (isFinite_ofNat_of_le hn hn')]
  exact isFinite_ofRatio_of_le _ hpos hpos
    (Nat.mul_le_mul_right _ (Nat.mul_le_mul (units_ofNat_mono hm) (units_ofNat_mono hn))) h

/-- Powers of two are exact, and so is a product of them that is not too large. -/
theorem isFinite_mul_twoPow {j k : Nat} (hj : j ≤ 970) (hk : k ≤ 970) (h : j + k ≤ 1023) :
    ((ofNat (twoPow j)).mul (ofNat (twoPow k))).isFinite = true := by
  obtain ⟨hfirst, hunits⟩ := units_ofNat_mul_twoPow (n := 1) (by decide) hj
  obtain ⟨hsecond, hunits'⟩ := units_ofNat_mul_twoPow (n := 1) (by decide) hk
  rw [Nat.one_mul] at hfirst hunits hsecond hunits'
  rw [mul_of_isFinite hfirst hsecond, hunits, hunits']
  refine isFinite_ofRatio (Nat.mul_pos unitsPerOne_pos unitsPerOne_pos) ?_
  calc twoPow j * unitsPerOne * (twoPow k * unitsPerOne) * unitsPerOne
      = twoPow (j + k) * unitsPerOne * (unitsPerOne * unitsPerOne) := by
        rw [twoPow_add]
        ring
    _ ≤ largest.units * (unitsPerOne * unitsPerOne) :=
      Nat.mul_le_mul_right _ (twoPow_le_largest h)

/-- No product of a whole number with one of the largest powers of ten is rounded to infinity when
the exact one is not too large. It is enough to look at the largest product for each power. -/
theorem isFinite_largest_products : ∀ n < 18,
    ((ofNat (largest.units / unitsPerOne / tenPow (291 + n))).mul
      (powerOfTenNumber (291 + n))).isFinite = true := by
  decide +kernel

/-- No product of a short decimal with a power of ten is rounded to infinity when the exact one is
not too large. -/
theorem isFinite_product {significand exponent : Nat} (hexponent : exponent ≤ largestPower)
    (hdigits : significand < 10 * twoPow 55)
    (hsize : significand * tenPow exponent * unitsPerOne ≤ largest.units) :
    ((ofNat significand).mul (powerOfTenNumber exponent)).isFinite = true := by
  obtain hsmall | hlarge := Nat.lt_or_ge exponent 291
  · -- A smaller power of ten is not above `twoPow 964`, and the other factor not above `twoPow 59`.
    have hfactor : significand ≤ twoPow 59 := hdigits.le.trans (by decide)
    have hpower : tenPow exponent ≤ twoPow 964 := tenPow_le_twoPow (by omega)
    exact isFinite_mul_ofNat_of_le hfactor hpower
      (isFinite_ofNat_of_le_twoPow (Nat.le_refl _) (by decide))
      (isFinite_ofNat_of_le_twoPow (Nat.le_refl _) (by decide))
      (isFinite_mul_twoPow (by decide) (by decide) (by decide))
  · obtain ⟨n, rfl⟩ := Nat.exists_eq_add_of_le hlarge
    have hlast : 291 + 17 = largestPower := rfl
    have hlargest := isFinite_largest_products n (by omega)
    have hfits : largest.units / unitsPerOne / tenPow (291 + n) < twoPow 64 := by
      rw [Nat.div_lt_iff_lt_mul (tenPow_pos _), Nat.div_lt_iff_lt_mul unitsPerOne_pos]
      refine units_largest_lt.trans_le (Nat.mul_le_mul_right _ ?_)
      calc twoPow 1024 = twoPow 64 * twoPow 960 := twoPow_add 64 960
        _ ≤ twoPow 64 * tenPow (291 + n) :=
          Nat.mul_le_mul_left _ (twoPow_le_tenPow (by omega))
    refine isFinite_mul_ofNat_of_le ?_ (Nat.le_refl _) (isFinite_ofNat hfits)
      (powerOfTenNumber_bounds hexponent).1 hlargest
    rw [Nat.le_div_iff_mul_le (tenPow_pos _), Nat.le_div_iff_mul_le unitsPerOne_pos]
    exact hsize

theorem exists_scaled?_of_le {significand exponent : Nat} (hdigits : significand < 10 * twoPow 55)
    (hsize : significand * tenPow exponent * unitsPerOne ≤ largest.units) :
    ∃ y, scaled? significand exponent = some y := by
  rw [scaled?, if_neg (Int.not_lt.mpr (Int.natCast_nonneg _))]
  dsimp only
  split
  · next hpower =>
    rw [Int.toNat_natCast, if_pos (isFinite_product (Int.ofNat_le.mp hpower) hdigits hsize)]
    exact ⟨_, rfl⟩
  · next hpower =>
    -- So large a power of ten is above all numbers, and only zero can be before it.
    have hzero : significand = 0 := by
      refine Nat.eq_zero_of_not_pos fun hpos => ?_
      have hten : twoPow 1024 ≤ tenPow exponent :=
        twoPow_le_tenPow (by rw [largestPower] at hpower; omega)
      have hle := Nat.mul_le_mul_right unitsPerOne
        (Nat.le_trans hten (Nat.le_mul_of_pos_left _ hpos))
      exact absurd (units_largest_lt.trans_le hle) (Nat.not_lt.mpr hsize)
    have hnothing : (ofNat 0).isZero = true := isZero_ofRatio_zero _ _
    rw [hzero, if_pos hnothing]
    exact ⟨_, rfl⟩

/-- **The shortest decimal of a finite number is read.** -/
theorem exists_scaled?_shortest (tie : Tie) (hfinite : x.isFinite = true) :
    ∃ y, scaled? (x.shortest tie).coefficient (x.shortest tie).exponent = some y := by
  have hdigits := coefficient_shortest_lt tie hfinite
  obtain hneg | hnonneg := Int.lt_or_le (x.shortest tie).exponent 0
  · have hsmall : 10 * twoPow 55 < twoPow 64 := by decide
    obtain ⟨y, hy, -⟩ := scaled?_of_neg (hdigits.trans hsmall) hneg
    exact ⟨y, hy⟩
  · rw [← Int.toNat_of_nonneg hnonneg]
    exact exists_scaled?_of_le hdigits (shortest_le_largest tie hfinite hnonneg)

end Binary64

end Registrar
