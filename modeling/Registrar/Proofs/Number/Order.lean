import Registrar.Proofs.Number.Rounding

/-!
# The order of numbers

Numbers are ordered as their sizes are, and the pattern of a larger number is larger. So sizes can
be compared where patterns are, and the other way round.

## Main results

* `divEven_le` — a quotient is not rounded far.
* `Binary64.units_le_units_iff` — the order of patterns is that of sizes.
* `Binary64.key_le_key_iff` — the order of numbers is that of their sizes.
-/

namespace Registrar

/-- A quotient that is less than half a step above `q` is rounded to at most `q`. -/
theorem divEven_le {num den q : Nat} (hden : 0 < den) (h : 2 * num < (2 * q + 1) * den) :
    divEven num den ≤ q := by
  have hdiv := Nat.div_add_mod' num den
  have hmod := Nat.mod_lt num hden
  rw [Nat.add_mul, Nat.one_mul, Nat.mul_assoc] at h
  rw [divEven]
  generalize num / den = k at hdiv ⊢
  generalize num % den = r at hdiv hmod ⊢
  -- A remainder of half a step or more leaves room for one more step.
  have hle (n : Nat) (hn : k * den + n * den < (q + 1) * den) : k + n ≤ q := by
    rw [← Nat.add_mul] at hn
    exact Nat.le_of_lt_succ (Nat.lt_of_mul_lt_mul_right hn)
  have hzero := hle 0
  have hone := hle 1
  rw [Nat.zero_mul] at hzero
  rw [Nat.one_mul] at hone
  rw [Nat.add_mul, Nat.one_mul] at hzero hone
  split
  · exact hzero (by omega)
  · split
    · exact hone (by omega)
    · have hup := hone (by omega)
      omega

namespace Binary64

variable {x y : Binary64}

/-! ### The order of sizes -/

/-- All 53 digits on one scale reach as far as 52 digits on the next. -/
theorem twoPow_mul_twoPow (k : Nat) :
    twoPow 53 * twoPow k = twoPow 52 * twoPow (k + 1) := by
  calc twoPow 53 * twoPow k = twoPow 52 * 2 * twoPow k := rfl
    _ = twoPow 52 * twoPow (k + 1) := by rw [Nat.mul_assoc, Nat.mul_comm 2, ← twoPow_succ]

/-- Larger patterns stand for larger numbers. -/
theorem units_lt_units (h : x.magnitude < y.magnitude) : x.units < y.units := by
  have hx := x.magnitude_eq
  have hy := y.magnitude_eq
  have hxs := x.significand_lt
  obtain hlt | heq | hgt := Nat.lt_trichotomy x.exponent y.exponent
  · calc x.units < twoPow 53 * twoPow x.exponent :=
          Nat.mul_lt_mul_of_pos_right hxs (twoPow_pos _)
      _ = twoPow 52 * twoPow (x.exponent + 1) := twoPow_mul_twoPow _
      _ ≤ twoPow 52 * twoPow y.exponent := Nat.mul_le_mul_left _ (twoPow_le_twoPow hlt)
      _ ≤ y.units := Nat.mul_le_mul_right _ (le_significand (Nat.zero_lt_of_lt hlt))
  · rw [units, units, heq]
    rw [heq] at hx
    exact Nat.mul_lt_mul_of_pos_right (by omega) (twoPow_pos _)
  · -- A larger exponent would make a larger pattern.
    have hys := y.significand_lt
    have hxs' := le_significand (Nat.zero_lt_of_lt hgt)
    have hmul := Nat.mul_le_mul_right (twoPow 52) (Nat.succ_le_of_lt hgt)
    have hdouble : twoPow 53 = 2 * twoPow 52 := rfl
    rw [Nat.succ_mul] at hmul
    omega

theorem units_le_units_iff : x.units ≤ y.units ↔ x.magnitude ≤ y.magnitude := by
  constructor
  · intro h
    exact Nat.le_of_not_lt fun hlt => Nat.not_le_of_lt (units_lt_units hlt) h
  · intro h
    obtain hlt | heq := Nat.lt_or_eq_of_le h
    · exact Nat.le_of_lt (units_lt_units hlt)
    · refine Nat.le_of_eq ?_
      rw [units, units, significand, significand, exponent, exponent, heq]

theorem units_eq_zero_iff : x.units = 0 ↔ x.magnitude = 0 := by
  have hzero := units_le_units_iff (x := x) (y := zero)
  have hunits : zero.units = 0 := by decide
  have hmagnitude : zero.magnitude = 0 := by decide
  rw [hunits, hmagnitude] at hzero
  omega

/-- **The order of numbers is the order of their sizes.** -/
theorem key_le_key_iff : x.key ≤ y.key ↔ x.signedUnits ≤ y.signedUnits := by
  have hle := units_le_units_iff (x := x) (y := y)
  have hge := units_le_units_iff (x := y) (y := x)
  have hx := units_eq_zero_iff (x := x)
  have hy := units_eq_zero_iff (x := y)
  rw [key, key, signedUnits, signedUnits]
  cases x.negative <;> cases y.negative <;> simp only [Bool.false_eq_true, if_true, if_false] <;>
    omega

theorem lt_eq_false_iff (hx : x.isNaN = false) (hy : y.isNaN = false) :
    x.lt y = false ↔ y.signedUnits ≤ x.signedUnits := by
  rw [lt, hx, hy, ← key_le_key_iff]
  simp

/-! ### Patterns -/

theorem ofMagnitude_toNat {negative : Bool} {magnitude : Nat} (h : magnitude < twoPow 63) :
    (ofMagnitude negative magnitude).bits.toNat =
      magnitude + if negative then twoPow 63 else 0 := by
  have h63 : twoPow 63 = 9223372036854775808 := rfl
  rw [ofMagnitude, UInt64.toNat_ofNat']
  split <;> omega

theorem magnitude_ofMagnitude {negative : Bool} {magnitude : Nat} (h : magnitude < twoPow 63) :
    (ofMagnitude negative magnitude).magnitude = magnitude := by
  rw [Binary64.magnitude, ofMagnitude_toNat h]
  split
  · rw [Nat.add_mod_right, Nat.mod_eq_of_lt h]
  · exact Nat.mod_eq_of_lt h

theorem negative_ofMagnitude {negative : Bool} {magnitude : Nat} (h : magnitude < twoPow 63) :
    (ofMagnitude negative magnitude).negative = negative := by
  rw [Binary64.negative, ofMagnitude_toNat h]
  cases negative with
  | true => exact decide_eq_true (Nat.le_add_left _ _)
  | false => exact decide_eq_false (Nat.not_le_of_lt h)

theorem infiniteMagnitude_lt : infiniteMagnitude < twoPow 63 := by
  decide

theorem negative_ofRatio (negative : Bool) (num den : Nat) :
    (ofRatio negative num den).negative = negative :=
  negative_ofMagnitude (Nat.lt_of_le_of_lt (Nat.min_le_right _ _) infiniteMagnitude_lt)

theorem isNaN_eq_false (h : x.isFinite = true) : x.isNaN = false := by
  rw [Binary64.isFinite, decide_eq_true_eq] at h
  exact decide_eq_false (Nat.lt_asymm h)

end Binary64

end Registrar
