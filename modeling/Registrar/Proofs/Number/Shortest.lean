import Registrar.Number.Reading
import Registrar.Proofs.Number.Rounding

/-!
# Shortest decimals lead back

The search for the fewest digits stops at a decimal in the neighbourhood of the number, and taking
zeros off its end does not change its value. So reading the shortest decimal gives the number back.

Two bounds are behind this. The search does not run out of grids, because the last one is finer than
a quarter of the last binary digit. And no decimal in a neighbourhood is so large or so small that
reading settles it by its number of digits alone.

## Main definitions

* `Covers` — a decimal is in the neighbourhood of a number.

## Main results

* `shortest_covers` — the shortest decimal is in the neighbourhood.
* `ofScientific_of_covers` — decimals in the neighbourhood of a number are read as the number.
-/

namespace Registrar

namespace Binary64

/-- The decimal `coefficient · 10 ^ exponent` is in the neighbourhood of a number. -/
def Covers (x : Binary64) (coefficient : Nat) (exponent : Int) : Prop :=
  x.neighbourhood.contains (coefficient * (powerOfTen exponent).1) (powerOfTen exponent).2 = true

/-! ### Powers of ten -/

theorem powerOfTen_of_nonneg {exponent : Int} (h : 0 ≤ exponent) :
    powerOfTen exponent = (tenPow exponent.toNat, 1) :=
  if_pos h

theorem powerOfTen_of_neg {exponent : Int} (h : exponent < 0) :
    powerOfTen exponent = (1, tenPow (-exponent).toNat) :=
  if_neg (Int.not_le.mpr h)

theorem powerOfTen_pos (exponent : Int) :
    0 < (powerOfTen exponent).1 ∧ 0 < (powerOfTen exponent).2 := by
  rw [powerOfTen]
  split
  · exact ⟨tenPow_pos _, Nat.one_pos⟩
  · exact ⟨Nat.one_pos, tenPow_pos _⟩

theorem powerOfTen_succ (exponent : Int) :
    10 * (powerOfTen exponent).1 * (powerOfTen (exponent + 1)).2 =
      (powerOfTen (exponent + 1)).1 * (powerOfTen exponent).2 := by
  obtain hneg | hnonneg := Int.lt_or_le exponent 0
  · rw [powerOfTen_of_neg hneg]
    have hstep : (-exponent).toNat = (-(exponent + 1)).toNat + 1 := by omega
    rw [hstep, tenPow_succ]
    obtain hneg' | hnonneg' := Int.lt_or_le (exponent + 1) 0
    · rw [powerOfTen_of_neg hneg']
      omega
    · rw [powerOfTen_of_nonneg hnonneg']
      obtain rfl : exponent = -1 := by omega
      rfl
  · rw [powerOfTen_of_nonneg hnonneg, powerOfTen_of_nonneg (by omega)]
    have hstep : (exponent + 1).toNat = exponent.toNat + 1 := by omega
    rw [hstep, tenPow_succ]
    omega

/-- A zero at the end of the digits counts in the exponent just as well. -/
theorem covers_succ_iff {x : Binary64} {coefficient : Nat} {exponent : Int} :
    x.Covers (10 * coefficient) exponent ↔ x.Covers coefficient (exponent + 1) := by
  have hvalue : 10 * coefficient * (powerOfTen exponent).1 * (powerOfTen (exponent + 1)).2 =
      coefficient * (powerOfTen (exponent + 1)).1 * (powerOfTen exponent).2 := by
    rw [Nat.mul_assoc coefficient, ← powerOfTen_succ]
    ac_rfl
  have hden := (powerOfTen_pos exponent).2
  have hden' := (powerOfTen_pos (exponent + 1)).2
  exact ⟨fun h => Neighbourhood.contains_congr h hden hden' hvalue,
    fun h => Neighbourhood.contains_congr h hden' hden hvalue.symm⟩

theorem covers_strip {x : Binary64} (fuel : Nat) {s : Scientific}
    (h : x.Covers s.coefficient s.exponent) :
    x.Covers (s.strip fuel).coefficient (s.strip fuel).exponent := by
  induction fuel generalizing s with
  | zero => exact h
  | succ fuel ih =>
    rw [Scientific.strip]
    split
    · next hzero =>
      refine ih (covers_succ_iff.mp ?_)
      have hten : 10 * (s.coefficient / 10) = s.coefficient := by omega
      rwa [hten]
    · exact h

/-! ### The search -/

/-- What the search stops at is in the neighbourhood. -/
theorem contains_of_gridHit? {tie : Tie} {n : Neighbourhood} {exponent : Int} {c : Nat}
    (h : gridHit? tie n exponent = some c) :
    n.contains (c * (powerOfTen exponent).1) (powerOfTen exponent).2 = true := by
  simp only [gridHit?] at h
  split at h
  · cases h
  · next hbelow _ =>
    cases h
    exact hbelow
  · next _ habove =>
    cases h
    exact habove
  · next hbelow habove =>
    split at h
    · cases h
      exact hbelow
    · split at h
      · cases h
        exact habove
      · cases tie with
        | up =>
          cases h
          exact habove
        | even =>
          cases h
          split
          · exact hbelow
          · exact habove

/-- The search stops at a grid whose point just below the number is in the neighbourhood. -/
theorem exists_gridHit?_of_contains {tie : Tie} {n : Neighbourhood} {exponent : Int}
    (h : n.contains (n.middle * ((powerOfTen exponent).2 * twoPow n.scale) /
      ((powerOfTen exponent).1 * twoPow 1076) * (powerOfTen exponent).1)
      (powerOfTen exponent).2 = true) : ∃ c, gridHit? tie n exponent = some c := by
  simp only [gridHit?, h]
  split
  · next h _ => cases h
  · exact ⟨_, rfl⟩
  · exact ⟨_, rfl⟩
  · split
    · exact ⟨_, rfl⟩
    · split
      · exact ⟨_, rfl⟩
      · cases tie <;> exact ⟨_, rfl⟩

/-- A grid whose step is at most a quarter of the last digit has a point in the neighbourhood: the
point just below the number. -/
theorem exists_gridHit? (tie : Tie) {n : Neighbourhood} {exponent : Int}
    (hlow : n.low < n.middle) (hhigh : n.middle < n.high)
    (hstep : (powerOfTen exponent).1 * twoPow 1076 ≤ (powerOfTen exponent).2 * twoPow n.scale) :
    ∃ c, gridHit? tie n exponent = some c := by
  have hpos : 0 < (powerOfTen exponent).1 * twoPow 1076 :=
    Nat.mul_pos (powerOfTen_pos exponent).1 (twoPow_pos _)
  have hquarter : 0 < (powerOfTen exponent).2 * twoPow n.scale :=
    Nat.mul_pos (powerOfTen_pos exponent).2 (twoPow_pos _)
  refine exists_gridHit?_of_contains ?_
  rw [Neighbourhood.contains_iff, Nat.mul_assoc _ (powerOfTen exponent).1]
  generalize (powerOfTen exponent).1 * twoPow 1076 = step at hstep hpos ⊢
  generalize (powerOfTen exponent).2 * twoPow n.scale = quarter at hstep hquarter ⊢
  have hdiv := Nat.div_add_mod' (n.middle * quarter) step
  have hmod := Nat.mod_lt (n.middle * quarter) hpos
  have hlow := Nat.mul_le_mul_right quarter (Nat.succ_le_of_lt hlow)
  have hhigh := Nat.mul_le_mul_right quarter (Nat.succ_le_of_lt hhigh)
  rw [Nat.succ_mul] at hlow hhigh
  split <;> omega

/-- The search ends in the neighbourhood if one of the grids it would try has a point there. -/
theorem contains_searchGrids {tie : Tie} {n : Neighbourhood} {fuel k : Nat} {exponent : Int}
    (hk : k < fuel) (hhit : ∃ c, gridHit? tie n (exponent - k) = some c) :
    n.contains ((searchGrids tie n fuel exponent).coefficient *
        (powerOfTen (searchGrids tie n fuel exponent).exponent).1)
      (powerOfTen (searchGrids tie n fuel exponent).exponent).2 = true := by
  induction fuel generalizing k exponent with
  | zero => exact absurd hk (Nat.not_lt_zero k)
  | succ fuel ih =>
    rw [searchGrids]
    split
    · next c hc => exact contains_of_gridHit? hc
    · next hnone =>
      cases k with
      | zero =>
        obtain ⟨c, hc⟩ := hhit
        rw [Int.natCast_zero, Int.sub_zero, hnone] at hc
        cases hc
      | succ k =>
        refine ih (Nat.lt_of_succ_lt_succ hk) ?_
        have hexponent : exponent - 1 - (k : Int) = exponent - ((k + 1 : Nat) : Int) := by omega
        rwa [hexponent]

/-! ### The shortest decimal -/

theorem middle_bounds {x : Binary64} (hzero : x.isZero = false) :
    x.neighbourhood.low < x.neighbourhood.middle ∧
      x.neighbourhood.middle < x.neighbourhood.high := by
  have hpos := significand_pos hzero
  simp only [neighbourhood]
  split <;> omega

/-- The sign does not count. -/
theorem shortest_congr {x y : Binary64} (tie : Tie) (h : x.magnitude = y.magnitude) :
    x.shortest tie = y.shortest tie := by
  have hzero : x.isZero = y.isZero := by rw [isZero, isZero, h]
  have hsignificand : x.significand = y.significand := by rw [significand, significand, h]
  have hexponent : x.exponent = y.exponent := by rw [exponent, exponent, h]
  simp only [shortest, hzero, units, neighbourhood, hsignificand, hexponent]

/-- The last grid that would be tried is finer than a quarter of the last digit. -/
theorem last_grid_fine {m e : Nat} (hm : m < twoPow 53) (he : e < 2046) :
    let exponent : Int := (((m * twoPow e).log2 : Int) - 1074) * 30103 / 100000 + 1 - (23 : Nat)
    (powerOfTen exponent).1 * twoPow 1076 ≤ (powerOfTen exponent).2 * twoPow e := by
  have hlog : (m * twoPow e).log2 ≤ 52 + e := by
    refine log2_le ?_
    rw [Nat.add_right_comm, twoPow_add]
    exact Nat.mul_lt_mul_of_pos_right hm (twoPow_pos e)
  generalize (m * twoPow e).log2 = log at hlog
  intro exponent
  obtain hneg | hnonneg := Int.lt_or_le exponent 0
  · rw [powerOfTen_of_neg hneg, Nat.one_mul]
    calc twoPow 1076 ≤ twoPow (1076 - e + e) := twoPow_le_twoPow (by omega)
      _ = twoPow (1076 - e) * twoPow e := twoPow_add _ _
      _ ≤ tenPow (-exponent).toNat * twoPow e :=
        Nat.mul_le_mul_right _ (twoPow_le_tenPow (by omega))
  · rw [powerOfTen_of_nonneg hnonneg, Nat.one_mul]
    calc tenPow exponent.toNat * twoPow 1076 ≤ twoPow (e - 1076) * twoPow 1076 :=
        Nat.mul_le_mul_right _ (tenPow_le_twoPow (by omega))
      _ = twoPow (e - 1076 + 1076) := (twoPow_add _ _).symm
      _ = twoPow e := by rw [Nat.sub_add_cancel (by omega)]

/-- **The shortest decimal of a number is in its neighbourhood.** -/
theorem shortest_covers {x : Binary64} (tie : Tie) (hfinite : x.isFinite = true)
    (hzero : x.isZero = false) :
    x.Covers (x.shortest tie).coefficient (x.shortest tie).exponent := by
  obtain ⟨hlow, hhigh⟩ := middle_bounds hzero
  rw [shortest, if_neg (by simp [hzero])]
  refine covers_strip 24 (contains_searchGrids (k := 23) (by decide) ?_)
  exact exists_gridHit? _ hlow hhigh (last_grid_fine x.significand_lt (exponent_lt hfinite))

/-! ### Reading -/

theorem pos_of_covers {x : Binary64} {coefficient : Nat} {exponent : Int}
    (hzero : x.isZero = false) (h : x.Covers coefficient exponent) : 0 < coefficient := by
  have hdigit : 0 < (powerOfTen exponent).2 * twoPow x.exponent :=
    Nat.mul_pos (powerOfTen_pos exponent).2 (twoPow_pos _)
  obtain ⟨hlow, -, -, -⟩ := bounds_of_contains rfl rfl h
  refine Nat.pos_of_ne_zero fun hcoefficient => ?_
  have hm := Nat.mul_le_mul_right ((powerOfTen exponent).2 * twoPow x.exponent)
    (Nat.succ_le_of_lt (significand_pos hzero))
  rw [Nat.succ_mul, Nat.zero_mul] at hm
  rw [hcoefficient, Nat.zero_mul, Nat.zero_mul] at hlow
  omega

theorem lt_tenPow_length (n : Nat) : n < tenPow (Nat.toDigits 10 n).length :=
  (Nat.length_toDigits_le_iff (by decide) Nat.length_toDigits_pos).mp (Nat.le_refl _)

theorem tenPow_length_le {n : Nat} (h : 0 < n) : tenPow ((Nat.toDigits 10 n).length - 1) ≤ n := by
  refine Nat.le_of_not_lt fun hlt => ?_
  have hpos : 0 < (Nat.toDigits 10 n).length := Nat.length_toDigits_pos
  by_cases hone : (Nat.toDigits 10 n).length = 1
  · rw [hone, Nat.sub_self, tenPow_zero] at hlt
    omega
  · have hle := (Nat.length_toDigits_le_iff (n := n) (k := (Nat.toDigits 10 n).length - 1)
      (by decide) (by omega)).mpr hlt
    omega

/-- A decimal in the neighbourhood of a number has at most 310 digits before its point. -/
theorem point_le_of_covers {x : Binary64} {coefficient : Nat} {exponent : Int}
    (hfinite : x.isFinite = true) (hzero : x.isZero = false) (h : x.Covers coefficient exponent) :
    ((Nat.toDigits 10 coefficient).length : Int) + exponent ≤ 310 := by
  refine Int.not_lt.mp fun hlarge => ?_
  have hdigits := tenPow_length_le (pos_of_covers hzero h)
  have hpos : 0 < (Nat.toDigits 10 coefficient).length := Nat.length_toDigits_pos
  have hden := (powerOfTen_pos exponent).2
  -- The decimal is below `2 ^ 1024`, the end of the finite numbers.
  have hbelow : coefficient * (powerOfTen exponent).1 < twoPow 1024 * (powerOfTen exponent).2 := by
    obtain ⟨-, hhigh, -, -⟩ := bounds_of_contains rfl rfl h
    have hm := Nat.mul_le_mul_right ((powerOfTen exponent).2 * twoPow x.exponent)
      (Nat.succ_le_of_lt x.significand_lt)
    have hscale : twoPow 53 * ((powerOfTen exponent).2 * twoPow x.exponent) ≤
        twoPow 1024 * (powerOfTen exponent).2 * unitsPerOne := by
      have hexponent := exponent_lt hfinite
      calc twoPow 53 * ((powerOfTen exponent).2 * twoPow x.exponent)
          = twoPow (53 + x.exponent) * (powerOfTen exponent).2 := by
            rw [twoPow_add, Nat.mul_comm (powerOfTen exponent).2, Nat.mul_assoc]
        _ ≤ twoPow (1024 + 1074) * (powerOfTen exponent).2 :=
          Nat.mul_le_mul_right _ (twoPow_le_twoPow (by omega))
        _ = twoPow 1024 * (powerOfTen exponent).2 * unitsPerOne := by
          rw [twoPow_add, unitsPerOne, Nat.mul_right_comm]
    have hdigit : 0 < (powerOfTen exponent).2 * twoPow x.exponent :=
      Nat.mul_pos hden (twoPow_pos _)
    rw [Nat.succ_mul] at hm
    refine Nat.lt_of_mul_lt_mul_right (a := unitsPerOne) ?_
    omega
  have habove : twoPow 1024 * (powerOfTen exponent).2 ≤ coefficient * (powerOfTen exponent).1 := by
    refine Nat.le_trans (Nat.mul_le_mul_right _ (twoPow_le_tenPow (n := 310) (by decide))) ?_
    obtain hneg | hnonneg := Int.lt_or_le exponent 0
    · rw [powerOfTen_of_neg hneg, Nat.mul_one, ← tenPow_add]
      exact Nat.le_trans (tenPow_le_tenPow (by omega)) hdigits
    · rw [powerOfTen_of_nonneg hnonneg, Nat.mul_one]
      refine Nat.le_trans ?_ (Nat.mul_le_mul_right _ hdigits)
      rw [← tenPow_add]
      exact tenPow_le_tenPow (by omega)
  omega

/-- A decimal in the neighbourhood of a number has at most 330 zeros after its point. -/
theorem le_point_of_covers {x : Binary64} {coefficient : Nat} {exponent : Int}
    (hzero : x.isZero = false) (h : x.Covers coefficient exponent) :
    -330 ≤ ((Nat.toDigits 10 coefficient).length : Int) + exponent := by
  refine Int.not_lt.mp fun hsmall => ?_
  have hdigits := lt_tenPow_length coefficient
  obtain ⟨hlow, -, -, -⟩ := bounds_of_contains rfl rfl h
  have hneg : exponent < 0 := by omega
  have hm := Nat.mul_le_mul_right ((powerOfTen exponent).2 * twoPow x.exponent)
    (Nat.succ_le_of_lt (significand_pos hzero))
  have hdigit := Nat.mul_le_mul_left (powerOfTen exponent).2 (twoPow_pos x.exponent)
  rw [Nat.succ_mul, Nat.zero_mul] at hm
  rw [Nat.mul_one] at hdigit
  -- The decimal is at least half the smallest number, `2 ^ (-1075)`.
  have habove : tenPow (-exponent).toNat ≤ coefficient * twoPow 1075 := by
    rw [powerOfTen_of_neg hneg] at hlow hm hdigit
    rw [Nat.mul_one] at hlow
    rw [twoPow_succ, ← unitsPerOne, ← Nat.mul_assoc]
    omega
  have hbelow : coefficient * twoPow 1075 < tenPow (-exponent).toNat := by
    calc coefficient * twoPow 1075
        < tenPow (Nat.toDigits 10 coefficient).length * twoPow 1075 :=
          Nat.mul_lt_mul_of_pos_right hdigits (twoPow_pos _)
      _ ≤ tenPow (Nat.toDigits 10 coefficient).length * tenPow 331 :=
          Nat.mul_le_mul_left _ (twoPow_le_tenPow (by decide))
      _ = tenPow ((Nat.toDigits 10 coefficient).length + 331) := (tenPow_add _ _).symm
      _ ≤ tenPow (-exponent).toNat := tenPow_le_tenPow (by omega)
  omega

/-- **Decimals in the neighbourhood of a number are read as the number.** -/
theorem ofScientific_of_covers {x : Binary64} {coefficient : Nat} {exponent : Int}
    (hfinite : x.isFinite = true) (hzero : x.isZero = false) (h : x.Covers coefficient exponent) :
    ofScientific x.negative coefficient exponent = x := by
  have hcoefficient := pos_of_covers hzero h
  have hupper := point_le_of_covers hfinite hzero h
  have hlower := le_point_of_covers hzero h
  have hround := ofRatio_of_contains hfinite (powerOfTen_pos exponent).2 h
  rw [ofScientific, if_neg (Nat.ne_of_gt hcoefficient)]
  simp only [if_neg (Int.not_lt.mpr hupper), if_neg (Int.not_lt.mpr hlower)]
  split
  · next hnonneg => rwa [powerOfTen_of_nonneg hnonneg] at hround
  · next hneg =>
    rwa [powerOfTen_of_neg (Int.not_le.mp hneg), Nat.mul_one] at hround

theorem eq_ofMagnitude_zero {x : Binary64} (h : x.isZero = true) :
    ofMagnitude x.negative 0 = x := by
  have hmagnitude : x.magnitude = 0 := by simpa [isZero] using h
  rw [← hmagnitude]
  exact x.ofMagnitude_magnitude

/-- **The shortest decimal of a number is read as the number.** -/
theorem ofScientific_shortest {x : Binary64} (tie : Tie) (hfinite : x.isFinite = true) :
    ofScientific x.negative (x.shortest tie).coefficient (x.shortest tie).exponent = x := by
  cases hzero : x.isZero with
  | true =>
    rw [shortest, if_pos hzero, ofScientific, if_pos rfl]
    exact eq_ofMagnitude_zero hzero
  | false => exact ofScientific_of_covers hfinite hzero (shortest_covers tie hfinite hzero)

/-- The shortest decimal of a number may also be written out to a tenth. -/
theorem ofScientific_shortest_tenths {x : Binary64} (tie : Tie) (hfinite : x.isFinite = true)
    (h : 0 ≤ (x.shortest tie).exponent) :
    ofScientific x.negative
      (10 * ((x.shortest tie).coefficient * tenPow (x.shortest tie).exponent.toNat)) (-1) = x := by
  cases hzero : x.isZero with
  | true =>
    have hcoefficient : (x.shortest tie).coefficient = 0 := by rw [shortest, if_pos hzero]
    rw [hcoefficient, Nat.zero_mul, ofScientific, if_pos rfl]
    exact eq_ofMagnitude_zero hzero
  | false =>
    have hcovers := shortest_covers tie hfinite hzero
    rw [Covers, powerOfTen_of_nonneg h] at hcovers
    refine ofScientific_of_covers hfinite hzero (covers_succ_iff.mpr ?_)
    have hone : powerOfTen (-1 + 1) = (1, 1) := rfl
    rwa [Covers, hone, Nat.mul_one]

end Binary64

end Registrar
