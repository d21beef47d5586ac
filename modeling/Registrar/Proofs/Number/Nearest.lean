import Registrar.Proofs.Number.Quotient

/-!
# The number nearest to a decimal

A decimal is reported as a 64-bit number in four steps, each of which is rounded: the fraction is a
quotient, it is added to the whole part, the sum is multiplied by the power of ten, and what this
gives is rounded to a whole number and divided again. The last two steps repair the ones before. If
the product is less than a half away from the coefficient, rounding it gives the coefficient, and
the quotient at the end is rounded once, from the exact decimal.

How far the product can be away is a matter of relative errors. Rounding moves a size that is
neither tiny nor huge by at most one part in `2 ^ 53`, and three roundings move the coefficient by
little more than three parts. That is less than a half as long as the coefficient has at most 15
digits. Above that, decimals of one value that are written with different scales need not be
reported as one number.

## Main definitions

* `Binary64.size` — the size of a finite number, as a rational number.
* `Binary64.IsModerate` — sizes that are far from the ends of the range.
* `Binary64.IsUnsigned` — finite numbers without a sign.
* `Binary64.IsNearest` — a number without a sign that is within the relative error of a size.

## Main results

* `Binary64.ofRatio_congr` — a rounded ratio depends on the value of the ratio only.
* `Binary64.isNearest_ofRatio` — the relative error of rounding.
* `Decimal96.toBinary64_eq` — a decimal of at most 15 digits is reported as the nearest number.
* `Decimal96.eq_toBinary64` — such decimals of one value are reported as equal numbers.
-/

namespace Registrar

variable {num den num' den' : Nat}

/-! ### Quotients of one value -/

theorem divEven_mul_right {factor : Nat} (hfactor : 0 < factor) :
    divEven (num * factor) (den * factor) = divEven num den := by
  have htwice : 2 * (num % den * factor) = 2 * (num % den) * factor := (Nat.mul_assoc _ _ _).symm
  simp only [divEven, Nat.mul_div_mul_right _ _ hfactor, Nat.mul_mod_mul_right, htwice,
    Nat.mul_lt_mul_right hfactor]

theorem divEven_mul_left (n : Nat) (hden : 0 < den) : divEven (n * den) den = n := by
  have hone : divEven (n * den) (1 * den) = divEven n 1 := divEven_mul_right hden
  rwa [Nat.one_mul, divEven_one] at hone

theorem div_le_divEven (num den : Nat) : num / den ≤ divEven num den := by
  rw [divEven]
  split
  · exact Nat.le_refl _
  · split <;> exact Nat.le_add_right _ _

/-- A quotient that is less than a half away from `n` is rounded to `n`. -/
theorem divAway_eq {n : Nat} (hden : 0 < den) (h : |(num / den : ℚ) - n| < 1 / 2) :
    divAway num den = n := by
  obtain ⟨hlow, hhigh⟩ := abs_lt.mp h
  have hfloor : ⌊(num / den : ℚ) + 1 / 2⌋ = (n : ℤ) := by
    rw [Int.floor_eq_iff, Int.cast_natCast]
    constructor <;> linarith
  rw [floor_eq_divAway hden] at hfloor
  exact_mod_cast hfloor

/-! ### Sizes of one value -/

theorem mul_eq_mul_of_signedRatio_eq {negative negative' : Bool} (hden : 0 < den) (hden' : 0 < den')
    (h : signedRatio negative num den = signedRatio negative' num' den') :
    num * den' = num' * den := by
  have hsize := congrArg abs h
  rw [abs_signedRatio, abs_signedRatio, div_eq_div_iff (Nat.cast_ne_zero.mpr hden.ne')
    (Nat.cast_ne_zero.mpr hden'.ne')] at hsize
  exact_mod_cast hsize

theorem negative_eq_of_signedRatio_eq {negative negative' : Bool} (hnum : 0 < num)
    (hnum' : 0 < num') (hden : 0 < den) (hden' : 0 < den')
    (h : signedRatio negative num den = signedRatio negative' num' den') :
    negative = negative' := by
  rw [Bool.eq_iff_iff, ← signedRatio_lt_zero_iff hnum hden, h, signedRatio_lt_zero_iff hnum' hden']

/-- Rounding to places does not lead past a whole number. -/
theorem abs_roundHalfAway_le {places bound : Nat} {q : ℚ} (h : |q| ≤ bound) :
    |roundHalfAway places q| ≤ bound := by
  have hpower : (0 : ℚ) < tenPow places := Nat.cast_pos.mpr (tenPow_pos _)
  have hscaled := mul_le_mul_of_nonneg_right h hpower.le
  have hnonneg := mul_nonneg (abs_nonneg q) hpower.le
  have hfloor : ⌊|q| * tenPow places + 1 / 2⌋ ≤ ((bound * tenPow places : ℕ) : ℤ) := by
    rw [← Int.lt_add_one_iff, Int.floor_lt]
    push_cast
    linarith
  have hfloorNonneg : 0 ≤ ⌊|q| * tenPow places + 1 / 2⌋ := Int.floor_nonneg.mpr (by linarith)
  rw [roundHalfAway]
  generalize ⌊|q| * tenPow places + 1 / 2⌋ = whole at hfloor hfloorNonneg ⊢
  have hsize : (whole / tenPow places : ℚ) ≤ bound := by
    rw [div_le_iff₀ hpower]
    exact_mod_cast hfloor
  have hsizeNonneg : (0 : ℚ) ≤ whole / tenPow places :=
    div_nonneg (Int.cast_nonneg hfloorNonneg) hpower.le
  split
  · rwa [abs_neg, abs_of_nonneg hsizeNonneg]
  · rwa [abs_of_nonneg hsizeNonneg]

namespace Binary64

variable {x y : Binary64} {negative : Bool} {q : ℚ}

/-! ### Equal numbers -/

theorem eq_self (h : x.isNaN = false) : x.eq x = true := by
  rw [eq, h, beq_self_eq_true]
  rfl

/-- Zeros are equal, whatever their signs. -/
theorem eq_of_isZero (hx : x.isZero = true) (hy : y.isZero = true) : x.eq y = true := by
  rw [isZero, beq_iff_eq] at hx hy
  have hkeys : x.key = y.key := by
    rw [key, key, hx, hy, Int.natCast_zero, Int.neg_zero, ite_self, ite_self]
  rw [eq, isNaN, isNaN, hx, hy, hkeys, beq_self_eq_true]
  rfl

/-! ### Ratios of one value -/

theorem ofRatio_mul_right (negative : Bool) (num den : Nat) {factor : Nat} (hfactor : 0 < factor) :
    ofRatio negative (num * factor) (den * factor) = ofRatio negative num den := by
  simp only [ofRatio, Nat.mul_right_comm _ factor, Nat.mul_div_mul_right _ _ hfactor,
    divEven_mul_right hfactor]

/-- **A rounded ratio depends on the value of the ratio only.** -/
theorem ofRatio_congr (hden : 0 < den) (hden' : 0 < den') (hvalue : num * den' = num' * den) :
    ofRatio negative num den = ofRatio negative num' den' := by
  rw [← ofRatio_mul_right negative num den hden', hvalue, Nat.mul_comm den,
    ofRatio_mul_right negative num' den' hden]

theorem magnitude_ofRatio (negative : Bool) (num den : Nat) :
    (ofRatio negative num den).magnitude =
      Nat.min (((num * unitsPerOne / den).log2 - 52) * twoPow 52 +
        divEven (num * unitsPerOne) (den * twoPow ((num * unitsPerOne / den).log2 - 52)))
        infiniteMagnitude :=
  magnitude_ofMagnitude (Nat.lt_of_le_of_lt (Nat.min_le_right _ _) infiniteMagnitude_lt)

theorem isZero_ofRatio_zero (negative : Bool) (den : Nat) :
    (ofRatio negative 0 den).isZero = true := by
  rw [isZero, magnitude_ofRatio]
  simp [divEven, Nat.log2_zero]

theorem neg_ofRatio (num den : Nat) : (ofRatio false num den).neg = ofRatio true num den := by
  rw [neg, negative_ofRatio, magnitude_ofRatio]
  rfl

theorem isNaN_ofRatio (negative : Bool) (num den : Nat) :
    (ofRatio negative num den).isNaN = false := by
  rw [isNaN, magnitude_ofRatio]
  exact decide_eq_false (Nat.not_lt_of_le (Nat.min_le_right _ _))

/-! ### What a ratio is rounded to -/

/-- The size of a pattern on a scale, where all 53 digits may be set and one more added. -/
theorem units_of_magnitude {scale digits : Nat}
    (hmagnitude : x.magnitude = scale * twoPow 52 + digits)
    (hlow : scale = 0 ∨ twoPow 52 ≤ digits) (hhigh : digits ≤ twoPow 53) :
    x.units = digits * twoPow scale := by
  have hdouble : twoPow 53 = twoPow 52 * 2 := rfl
  have hpos := twoPow_pos 52
  have hparts := x.magnitude_eq
  have hexponent (k : Nat) (hle : k * twoPow 52 ≤ x.magnitude)
      (hlt : x.magnitude < (k + 1) * twoPow 52) : x.exponent = k - 1 := by
    rw [exponent, Nat.div_eq_of_lt_le hle hlt]
  rw [units]
  obtain hsmall | hlarge := Nat.lt_or_ge digits (twoPow 52)
  · obtain rfl : scale = 0 := by omega
    rw [hexponent 0 (by omega) (by omega)] at hparts ⊢
    rw [show x.significand = digits by omega]
  obtain hlt | rfl := Nat.lt_or_eq_of_le hhigh
  · have hscale := hexponent (scale + 1) (by linarith) (by linarith)
    rw [hscale, Nat.add_sub_cancel] at hparts ⊢
    rw [show x.significand = digits by omega]
  · -- One more digit is the first digit of the next scale.
    have hscale := hexponent (scale + 2) (by linarith) (by linarith)
    rw [hscale] at hparts ⊢
    rw [show scale + 2 - 1 = scale + 1 from rfl, Nat.succ_mul] at hparts
    rw [show x.significand = twoPow 52 by omega]
    exact (twoPow_mul_twoPow scale).symm

/-- The scale on which a size is rounded leaves at most 53 digits, and no fewer unless it is the
smallest scale. -/
theorem scale_bounds (scaled : Nat) (hden : 0 < den) {scale : Nat}
    (hscale : (scaled / den).log2 - 52 = scale) :
    scaled < twoPow 53 * (den * twoPow scale) ∧
      (scale = 0 ∨ twoPow 52 * (den * twoPow scale) ≤ scaled) := by
  have hdigits (k : Nat) : twoPow (k + scale) * den = twoPow k * (den * twoPow scale) := by
    rw [twoPow_add, Nat.mul_assoc, Nat.mul_comm den]
  constructor
  · rw [← hdigits, ← Nat.div_lt_iff_lt_mul hden]
    exact Nat.lt_of_lt_of_le Nat.lt_log2_self (twoPow_le_twoPow (by omega))
  · refine (Nat.eq_zero_or_pos scale).imp_right fun hpos => ?_
    have hne : scaled / den ≠ 0 := by
      intro hzero
      rw [hzero, Nat.log2_zero] at hscale
      omega
    rw [← hdigits, ← Nat.le_div_iff_mul_le hden, show 52 + scale = (scaled / den).log2 by omega]
    exact Nat.log2_self_le hne

/-- A ratio that is not too large is rounded on some scale, to a multiple of its last digit. -/
theorem exists_units_ofRatio (negative : Bool) {k : Nat} (hden : 0 < den)
    (hsize : num * unitsPerOne < twoPow (53 + k) * den) (hk : k < 2045) :
    (ofRatio negative num den).isFinite = true ∧ ∃ scale ≤ k,
      (ofRatio negative num den).units =
        divEven (num * unitsPerOne) (den * twoPow scale) * twoPow scale ∧
      (scale = 0 ∨ twoPow 52 * (den * twoPow scale) ≤ num * unitsPerOne) := by
  have hmagnitude := magnitude_ofRatio negative num den
  generalize num * unitsPerOne = scaled at hsize hmagnitude ⊢
  obtain ⟨scale, hscale⟩ : ∃ scale, (scaled / den).log2 - 52 = scale := ⟨_, rfl⟩
  rw [hscale] at hmagnitude
  have hdigit : 0 < den * twoPow scale := Nat.mul_pos hden (twoPow_pos _)
  have hle : scale ≤ k := by
    have hlog : (scaled / den).log2 ≤ 52 + k :=
      log2_le (by rwa [Nat.add_right_comm, Nat.div_lt_iff_lt_mul hden])
    omega
  obtain ⟨hbelow, habove⟩ := scale_bounds scaled hden hscale
  have hhigh : divEven scaled (den * twoPow scale) ≤ twoPow 53 := divEven_le hdigit (by linarith)
  have hlow : scale = 0 ∨ twoPow 52 ≤ divEven scaled (den * twoPow scale) :=
    habove.imp_right fun h =>
      ((Nat.le_div_iff_mul_le hdigit).mpr h).trans (div_le_divEven _ _)
  have hfinite : scale * twoPow 52 + divEven scaled (den * twoPow scale) < infiniteMagnitude := by
    have hscales := Nat.mul_le_mul_right (twoPow 52) (show scale + 2 ≤ 2046 by omega)
    have hlast : 2046 * twoPow 52 < infiniteMagnitude := by decide
    have hdouble : twoPow 53 = 2 * twoPow 52 := rfl
    rw [Nat.add_mul] at hscales
    omega
  replace hmagnitude := hmagnitude.trans (Nat.min_eq_left (Nat.le_of_lt hfinite))
  refine ⟨decide_eq_true (hmagnitude ▸ hfinite), scale, hle, ?_, habove⟩
  exact units_of_magnitude hmagnitude hlow hhigh

/-! ### Whole numbers -/

theorem negative_ofNat (n : Nat) : (ofNat n).negative = false :=
  negative_ofRatio _ _ _

/-- Whole numbers of 53 binary digits are exact, and so are those with zeros behind them. -/
theorem units_ofNat_mul_twoPow {n k : Nat} (h : n < twoPow 53) (hk : k ≤ 970) :
    (ofNat (n * twoPow k)).isFinite = true ∧
      (ofNat (n * twoPow k)).units = n * twoPow k * unitsPerOne := by
  have hscaled : n * twoPow k * unitsPerOne = n * twoPow (k + 1074) := by
    rw [Nat.mul_assoc, unitsPerOne, ← twoPow_add]
  have hsize : n * twoPow k * unitsPerOne < twoPow (53 + (k + 1074)) * 1 := by
    rw [hscaled, Nat.mul_one, twoPow_add 53]
    exact Nat.mul_lt_mul_of_pos_right h (twoPow_pos _)
  obtain ⟨hfinite, scale, hscale, hunits, -⟩ := exists_units_ofRatio false Nat.one_pos hsize
    (by omega)
  refine ⟨hfinite, hunits.trans ?_⟩
  rw [hscaled, Nat.one_mul, ← Nat.sub_add_cancel hscale, twoPow_add, ← Nat.mul_assoc,
    divEven_mul_left _ (twoPow_pos _)]

theorem units_ofNat {n : Nat} (h : n < twoPow 53) :
    (ofNat n).isFinite = true ∧ (ofNat n).units = n * unitsPerOne := by
  have hexact := units_ofNat_mul_twoPow h (Nat.zero_le 970)
  rwa [twoPow_zero, Nat.mul_one] at hexact

/-! ### The relative error -/

/-- The size of a finite number. -/
def size (x : Binary64) : ℚ :=
  x.units / unitsPerOne

/-- Sizes that are far from the ends of the range of numbers. -/
def IsModerate (q : ℚ) : Prop :=
  1 / (tenPow 40 : ℕ) ≤ q ∧ q ≤ (tenPow 40 : ℕ)

/-- A finite number without a sign. -/
structure IsUnsigned (x : Binary64) : Prop where
  finite : x.isFinite = true
  nonneg : x.negative = false

/-- The number has no sign, and it is away from `q` by one part in `2 ^ 53` at most. -/
structure IsNearest (x : Binary64) (q : ℚ) : Prop extends IsUnsigned x where
  error : |x.size - q| ≤ q / (twoPow 53 : ℕ)

theorem unitsPerOne_pos : 0 < unitsPerOne :=
  twoPow_pos _

theorem cast_unitsPerOne_pos : (0 : ℚ) < unitsPerOne :=
  Nat.cast_pos.mpr unitsPerOne_pos

theorem isUnsigned_ofNat {n : Nat} (h : n < twoPow 53) : (ofNat n).IsUnsigned :=
  ⟨(units_ofNat h).1, negative_ofNat n⟩

theorem size_ofNat {n : Nat} (h : n < twoPow 53) : (ofNat n).size = n := by
  rw [size, (units_ofNat h).2, Nat.cast_mul, mul_div_cancel_right₀ _ cast_unitsPerOne_pos.ne']

theorem size_nonneg (x : Binary64) : 0 ≤ x.size :=
  div_nonneg (Nat.cast_nonneg _) cast_unitsPerOne_pos.le

theorem isModerate_iff : IsModerate q ↔ 1 / 10 ^ 40 ≤ q ∧ q ≤ 10 ^ 40 := by
  have hpower : ((tenPow 40 : ℕ) : ℚ) = 10 ^ 40 := by norm_num [tenPow]
  rw [IsModerate, hpower]

theorem IsModerate.pos (h : IsModerate q) : 0 < q := by
  refine lt_of_lt_of_le ?_ h.1
  exact one_div_pos.mpr (Nat.cast_pos.mpr (tenPow_pos _))

/-- A relative error in whole numbers. -/
theorem abs_div_sub_div_le {units unit parts : Nat} (hunit : 0 < unit) (hden : 0 < den)
    (hparts : 0 < parts) (hhigh : parts * (units * den) ≤ (parts + 1) * (num * unit))
    (hlow : parts * (num * unit) ≤ parts * (units * den) + num * unit) :
    |(units / unit - num / den : ℚ)| ≤ num / den / parts := by
  have hcommon : (0 : ℚ) < unit * den := by positivity
  have hpartsCast : (0 : ℚ) < parts := Nat.cast_pos.mpr hparts
  have hdifference : (units / unit - num / den : ℚ) =
      (units * den - num * unit) / (unit * den) := by
    field_simp
  have hratio : (num / den / parts : ℚ) = num * unit / parts / (unit * den) := by
    field_simp
  have hhigh' : (parts * (units * den) : ℚ) ≤ (parts + 1) * (num * unit) := by exact_mod_cast hhigh
  have hlow' : (parts * (num * unit) : ℚ) ≤ parts * (units * den) + num * unit := by
    exact_mod_cast hlow
  rw [hdifference, hratio, abs_div, abs_of_pos hcommon]
  refine div_le_div_of_nonneg_right (abs_le.mpr ⟨?_, ?_⟩) hcommon.le
  · rw [neg_le, le_div_iff₀ hpartsCast]
    linarith
  · rw [le_div_iff₀ hpartsCast]
    linarith

/-- A moderate ratio is in the range of all 53 digits. -/
theorem IsModerate.unit_bounds (h : IsModerate (num / den)) (hden : 0 < den) :
    twoPow 52 * den ≤ num * unitsPerOne ∧ num * unitsPerOne < twoPow (53 + 1300) * den := by
  have hcast : (0 : ℚ) < den := Nat.cast_pos.mpr hden
  have hrange : tenPow 40 ≤ twoPow 200 := tenPow_le_twoPow (by decide)
  constructor
  · have hle := h.1
    rw [div_le_div_iff₀ (Nat.cast_pos.mpr (tenPow_pos _)) hcast, one_mul] at hle
    have hle' : den ≤ num * tenPow 40 := by exact_mod_cast hle
    have hunit : twoPow (52 + 200) ≤ unitsPerOne := by
      rw [unitsPerOne]
      exact twoPow_le_twoPow (by decide)
    calc twoPow 52 * den ≤ twoPow 52 * (num * twoPow 200) :=
          Nat.mul_le_mul_left _ (hle'.trans (Nat.mul_le_mul_left _ hrange))
      _ = num * twoPow (52 + 200) := by rw [twoPow_add, Nat.mul_left_comm]
      _ ≤ num * unitsPerOne := Nat.mul_le_mul_left _ hunit
  · have hle := (div_le_iff₀ hcast).mp h.2
    have hle' : num ≤ tenPow 40 * den := by exact_mod_cast hle
    have hpower : twoPow (200 + 1074) = twoPow 200 * unitsPerOne := by rw [twoPow_add, unitsPerOne]
    calc num * unitsPerOne ≤ twoPow 200 * den * unitsPerOne :=
          Nat.mul_le_mul_right _ (hle'.trans (Nat.mul_le_mul_right _ hrange))
      _ = twoPow (200 + 1074) * den := by rw [hpower, Nat.mul_right_comm]
      _ < twoPow (53 + 1300) * den :=
        Nat.mul_lt_mul_of_pos_right (twoPow_lt_twoPow (by decide)) hden

/-- **The relative error of rounding.** -/
theorem isNearest_ofRatio (hden : 0 < den) (h : IsModerate (num / den)) :
    (ofRatio false num den).IsNearest (num / den) := by
  obtain ⟨hnotSmall, hnotLarge⟩ := h.unit_bounds hden
  obtain ⟨hfinite, scale, -, hunits, hscale⟩ :=
    exists_units_ofRatio false hden hnotLarge (by decide)
  refine ⟨⟨hfinite, negative_ofRatio _ _ _⟩, ?_⟩
  have hdigit : 0 < den * twoPow scale := Nat.mul_pos hden (twoPow_pos _)
  obtain ⟨hbelow, habove⟩ := divEven_near (num * unitsPerOne) hdigit
  -- The ratio has at least 53 digits on the scale on which it is rounded.
  have hnormal : twoPow 52 * (den * twoPow scale) ≤ num * unitsPerOne := by
    obtain rfl | hle := hscale
    · rw [twoPow_zero, Nat.mul_one]
      exact hnotSmall
    · exact hle
  have hvalue : (ofRatio false num den).units * den =
      divEven (num * unitsPerOne) (den * twoPow scale) * (den * twoPow scale) := by
    rw [hunits, Nat.mul_assoc, Nat.mul_comm (twoPow scale)]
  rw [← hvalue] at hbelow habove
  have hbelow' := Nat.mul_le_mul_left (twoPow 52) hbelow
  have habove' := Nat.mul_le_mul_left (twoPow 52) habove
  have hdouble : twoPow 53 = 2 * twoPow 52 := rfl
  refine abs_div_sub_div_le unitsPerOne_pos hden (twoPow_pos 53) ?_ ?_
  · rw [hdouble]
    linarith
  · rw [hdouble]
    linarith

/-- A rounded size is at most twice as large, and not less than half as large. -/
theorem IsNearest.bounds (h : x.IsNearest q) : q / 2 ≤ x.size ∧ x.size ≤ 2 * q := by
  obtain ⟨hlow, hhigh⟩ := abs_le.mp h.error
  have hparts : ((twoPow 53 : ℕ) : ℚ) = 9007199254740992 := by norm_num [twoPow]
  rw [hparts] at hlow hhigh
  constructor <;> linarith

theorem IsNearest.isZero_eq_false (h : x.IsNearest q) (hq : 0 < q) : x.isZero = false := by
  refine beq_eq_false_iff_ne.mpr fun hzero => ?_
  have hlow := h.bounds.1
  rw [size, units_eq_zero_iff.mpr hzero, Nat.cast_zero, zero_div] at hlow
  linarith

/-! ### Operations -/

namespace IsUnsigned

/-- The relative error of a sum. -/
theorem add (hx : x.IsUnsigned) (hy : y.IsUnsigned) (h : IsModerate (x.size + y.size)) :
    (x.add y).IsNearest (x.size + y.size) := by
  have hratio : x.size + y.size = ((x.units + y.units : ℕ) : ℚ) / unitsPerOne := by
    rw [size, size, ← add_div, Nat.cast_add]
  have hsum : x.add y = ofRatio false (x.units + y.units) unitsPerOne := by
    have hne : x.units + y.units ≠ 0 := by
      intro hzero
      have hpos := h.pos
      rw [hratio, hzero, Nat.cast_zero, zero_div] at hpos
      exact hpos.false
    have hsigned : x.signedUnits + y.signedUnits = ((x.units + y.units : ℕ) : ℤ) := by
      rw [signedUnits, signedUnits, hx.nonneg, hy.nonneg]
      rfl
    have hnonneg := decide_eq_false (Int.not_lt.mpr (Int.natCast_nonneg (x.units + y.units)))
    rw [Binary64.add, isNaN_eq_false hx.finite, isNaN_eq_false hy.finite, hx.finite, hy.finite]
    simp only [hsigned, Bool.or_self, Bool.false_eq_true, if_false, Bool.not_true,
      Int.natAbs_natCast]
    rw [if_neg (Int.natCast_ne_zero.mpr hne), hnonneg]
  rw [hratio] at h ⊢
  rw [hsum]
  exact isNearest_ofRatio unitsPerOne_pos h

/-- The relative error of a product. -/
theorem mul (hx : x.IsUnsigned) (hy : y.IsUnsigned) (h : IsModerate (x.size * y.size)) :
    (x.mul y).IsNearest (x.size * y.size) := by
  have hratio : x.size * y.size =
      ((x.units * y.units : ℕ) : ℚ) / ((unitsPerOne * unitsPerOne : ℕ) : ℚ) := by
    rw [size, size, div_mul_div_comm, Nat.cast_mul, Nat.cast_mul]
  have hproduct : x.mul y = ofRatio false (x.units * y.units) (unitsPerOne * unitsPerOne) := by
    rw [Binary64.mul, isNaN_eq_false hx.finite, isNaN_eq_false hy.finite, hx.finite, hy.finite,
      hx.nonneg, hy.nonneg]
    rfl
  rw [hratio] at h ⊢
  rw [hproduct]
  exact isNearest_ofRatio (Nat.mul_pos unitsPerOne_pos unitsPerOne_pos) h

/-- A size that is less than a half away from a whole number is rounded to it. -/
theorem roundAway (hx : x.IsUnsigned) {n : Nat} (h : |x.size - n| < 1 / 2) :
    x.roundAway = ofNat n := by
  rw [Binary64.roundAway, if_pos hx.finite, hx.nonneg, divAway_eq unitsPerOne_pos h]
  rfl

end IsUnsigned

/-- The quotient of whole numbers is rounded once. -/
theorem ofNat_div_ofNat {m n : Nat} (hm : m < twoPow 53) (hn : n < twoPow 53) (hpos : 0 < n) :
    (ofNat m).div (ofNat n) = ofRatio false m n := by
  obtain ⟨hfinite, hunits⟩ := units_ofNat hm
  obtain ⟨hfinite', hunits'⟩ := units_ofNat hn
  have hne : (ofNat n).isZero = false := by
    refine beq_eq_false_iff_ne.mpr fun hzero => ?_
    rw [← units_eq_zero_iff, hunits'] at hzero
    exact absurd hzero (Nat.mul_pos hpos unitsPerOne_pos).ne'
  rw [div, isNaN_eq_false hfinite, isNaN_eq_false hfinite', hfinite, hfinite', hne, negative_ofNat,
    negative_ofNat, hunits, hunits']
  exact ofRatio_mul_right false m n unitsPerOne_pos

end Binary64

namespace Decimal96

open Binary64

/-! ### Reported decimals -/

/-- A relative error does not depend on the unit. -/
theorem abs_mul_sub_mul_le {approx exact unit parts : ℚ} (hunit : 0 < unit)
    (h : |approx - exact| ≤ exact / parts) :
    |approx * unit - exact * unit| ≤ exact * unit / parts := by
  rw [← sub_mul, abs_mul, abs_of_pos hunit, mul_div_right_comm]
  exact mul_le_mul_of_nonneg_right h hunit.le

/-- Three roundings move a coefficient of 15 digits by less than a half. Here `fraction` is the
rounded quotient, `sum` the rounded sum, and `product` the rounded product. -/
theorem abs_product_sub_lt {whole rest power coefficient fraction sum product : ℚ}
    (hpower : 0 < power) (hwhole : 0 ≤ whole)
    (hparts : whole * power + rest = coefficient) (hsize : coefficient ≤ (tenPow 15 : ℕ))
    (hfraction : |fraction - rest / power| ≤ rest / power / (twoPow 53 : ℕ))
    (hsum : |sum - (whole + fraction)| ≤ (whole + fraction) / (twoPow 53 : ℕ))
    (hproduct : |product - sum * power| ≤ sum * power / (twoPow 53 : ℕ)) :
    |product - coefficient| < 1 / 2 := by
  have hbits : ((twoPow 53 : ℕ) : ℚ) = 9007199254740992 := by norm_num [twoPow]
  have hdigits : ((tenPow 15 : ℕ) : ℚ) = 1000000000000000 := by norm_num [tenPow]
  -- All errors are taken in units of the last digit of the coefficient.
  have hfraction' := abs_mul_sub_mul_le hpower hfraction
  have hsum' := abs_mul_sub_mul_le hpower hsum
  rw [div_mul_cancel₀ _ hpower.ne'] at hfraction'
  rw [add_mul] at hsum'
  rw [hbits] at hfraction' hsum' hproduct
  rw [hdigits] at hsize
  obtain ⟨hfractionLow, hfractionHigh⟩ := abs_le.mp hfraction'
  obtain ⟨hsumLow, hsumHigh⟩ := abs_le.mp hsum'
  obtain ⟨hproductLow, hproductHigh⟩ := abs_le.mp hproduct
  have hnonneg := mul_nonneg hwhole hpower.le
  rw [abs_lt]
  constructor <;> linarith

/-- A fraction of at most 15 digits. -/
theorem fraction_bounds {rest power : Nat} (hrest : 0 < rest) (hless : rest < power)
    (hlarge : power ≤ tenPow 15) :
    (1 / 10 ^ 15 : ℚ) ≤ rest / power ∧ (rest / power : ℚ) ≤ 1 ∧
      (ofRatio false rest power).IsNearest (rest / power) := by
  have hdigits : ((tenPow 15 : ℕ) : ℚ) = 10 ^ 15 := by norm_num [tenPow]
  have hlow : (1 / 10 ^ 15 : ℚ) ≤ rest / power := by
    rw [← hdigits]
    exact div_le_div₀ (Nat.cast_nonneg _) (Nat.one_le_cast.mpr hrest)
      (Nat.cast_pos.mpr (Nat.zero_lt_of_lt hless)) (Nat.cast_le.mpr hlarge)
  have hhigh : (rest / power : ℚ) ≤ 1 :=
    div_le_one_of_le₀ (Nat.cast_le.mpr hless.le) (Nat.cast_nonneg _)
  refine ⟨hlow, hhigh, isNearest_ofRatio (Nat.zero_lt_of_lt hless) ?_⟩
  exact isModerate_iff.mpr ⟨by linarith, by linarith⟩

/-- Rounding to a whole number repairs the steps before. -/
theorem roundAway_mul_eq {coefficient power : Nat} (hpower : 0 < power)
    (hlarge : power ≤ tenPow 15) (hsize : coefficient ≤ tenPow 15)
    (hrest : 0 < coefficient % power) :
    (((ofNat (coefficient / power)).add (ofRatio false (coefficient % power) power)).mul
      (ofNat power)).roundAway = ofNat coefficient := by
  have hbound : tenPow 15 < twoPow 53 := by decide
  have hdigits : ((tenPow 15 : ℕ) : ℚ) = 10 ^ 15 := by norm_num [tenPow]
  have hparts : ((coefficient / power : ℕ) : ℚ) * power + ((coefficient % power : ℕ) : ℚ) =
      coefficient := by
    exact_mod_cast Nat.div_add_mod' coefficient power
  have hwhole : coefficient / power ≤ tenPow 15 := (Nat.div_le_self _ _).trans hsize
  obtain ⟨hlow, hhigh, hfraction⟩ := fraction_bounds hrest (Nat.mod_lt _ hpower) hlarge
  generalize coefficient / power = whole at hparts hwhole ⊢
  generalize coefficient % power = rest at hparts hlow hhigh hfraction ⊢
  generalize ofRatio false rest power = fraction at hfraction ⊢
  have hwholeSize := size_ofNat (hwhole.trans_lt hbound)
  have hwholeNonneg : (0 : ℚ) ≤ whole := Nat.cast_nonneg _
  have hwholeLe : (whole : ℚ) ≤ 10 ^ 15 := hdigits ▸ Nat.cast_le.mpr hwhole
  obtain ⟨hfractionLow, hfractionHigh⟩ := hfraction.bounds
  have hsum := (isUnsigned_ofNat (hwhole.trans_lt hbound)).add hfraction.toIsUnsigned (by
    rw [hwholeSize]
    exact isModerate_iff.mpr ⟨by linarith, by linarith⟩)
  rw [hwholeSize] at hsum
  generalize (ofNat whole).add fraction = sum at hsum ⊢
  obtain ⟨hsumLow, hsumHigh⟩ := hsum.bounds
  have hpowerSize := size_ofNat (hlarge.trans_lt hbound)
  have hpowerLe : (power : ℚ) ≤ 10 ^ 15 := hdigits ▸ Nat.cast_le.mpr hlarge
  have hproductLow := le_mul_of_one_le_right sum.size_nonneg (Nat.one_le_cast.mpr hpower)
  have hproductHigh := mul_le_mul_of_nonneg_left hpowerLe sum.size_nonneg
  have hproduct := hsum.toIsUnsigned.mul (isUnsigned_ofNat (hlarge.trans_lt hbound)) (by
    rw [hpowerSize]
    exact isModerate_iff.mpr ⟨by linarith, by linarith⟩)
  rw [hpowerSize] at hproduct
  refine hproduct.toIsUnsigned.roundAway ?_
  exact abs_product_sub_lt (Nat.cast_pos.mpr hpower) hwholeNonneg hparts (Nat.cast_le.mpr hsize)
    hfraction.error hsum.error hproduct.error

/-- The size that is reported for a decimal of at most 15 digits. -/
theorem size_toBinary64 {coefficient power : Nat} (hpower : 0 < power) (hlarge : power ≤ tenPow 15)
    (hsize : coefficient ≤ tenPow 15) :
    let fraction := (ofNat (coefficient % power)).div (ofNat power)
    (if fraction.isZero = true then ofNat (coefficient / power)
      else ((((ofNat (coefficient / power)).add fraction).mul (ofNat power)).roundAway).div
        (ofNat power)) = ofRatio false coefficient power := by
  have hbound : tenPow 15 < twoPow 53 := by decide
  have hcoefficient := hsize.trans_lt hbound
  have hpowerBits := hlarge.trans_lt hbound
  intro fraction
  have hfraction : fraction = ofRatio false (coefficient % power) power :=
    ofNat_div_ofNat ((Nat.mod_le _ _).trans_lt hcoefficient) hpowerBits hpower
  rw [hfraction]
  obtain hzero | hrest := Nat.eq_zero_or_pos (coefficient % power)
  · rw [hzero, if_pos (isZero_ofRatio_zero _ _)]
    refine ofRatio_congr Nat.one_pos hpower ?_
    rw [Nat.div_mul_cancel (Nat.dvd_of_mod_eq_zero hzero), Nat.mul_one]
  · obtain ⟨hlow, -, hnearest⟩ := fraction_bounds hrest (Nat.mod_lt _ hpower) hlarge
    rw [hnearest.isZero_eq_false (lt_of_lt_of_le (by positivity) hlow), if_neg Bool.false_ne_true,
      roundAway_mul_eq hpower hlarge hsize hrest, ofNat_div_ofNat hcoefficient hpowerBits hpower]

/-- **A decimal of at most 15 digits is reported as the nearest number.** -/
theorem toBinary64_eq {d : Decimal96} (hscale : d.scale ≤ 15) (hsize : d.coefficient ≤ tenPow 15)
    (hpos : 0 < d.coefficient) :
    d.toBinary64 = ofRatio d.negative d.coefficient (tenPow d.scale) := by
  rw [toBinary64]
  split
  · next hzero => rw [bne_iff_ne.mpr hpos.ne', Bool.and_true, hzero, tenPow_zero]
  · dsimp only
    rw [size_toBinary64 (tenPow_pos _) (tenPow_le_tenPow hscale) hsize, neg_ofRatio]
    cases d.negative <;> rfl

/-! ### Decimals of one value -/

/-- A decimal without digits is reported as a zero. -/
theorem isZero_toBinary64 {d : Decimal96} (hscale : d.scale ≤ 15) (hzero : d.coefficient = 0) :
    d.toBinary64.isZero = true := by
  rw [toBinary64, hzero]
  split
  · exact isZero_ofRatio_zero _ _
  · dsimp only
    rw [size_toBinary64 (tenPow_pos _) (tenPow_le_tenPow hscale) (Nat.zero_le _), neg_ofRatio]
    split <;> exact isZero_ofRatio_zero _ _

/-- **Decimals of one value are reported as equal numbers**, if they have at most 15 digits. The
numbers are the same, but for the sign of a zero. -/
theorem eq_toBinary64 {d e : Decimal96} (hd : d.scale ≤ 15) (he : e.scale ≤ 15)
    (hdSize : d.coefficient ≤ tenPow 15) (heSize : e.coefficient ≤ tenPow 15)
    (hvalue : d.value = e.value) : d.toBinary64.eq e.toBinary64 = true := by
  have hdPower := tenPow_pos d.scale
  have hePower := tenPow_pos e.scale
  rw [value_eq, value_eq] at hvalue
  have hratio := mul_eq_mul_of_signedRatio_eq hdPower hePower hvalue
  obtain hzero | hpos := Nat.eq_zero_or_pos d.coefficient
  · have hzero' : e.coefficient = 0 := by
      rw [hzero, Nat.zero_mul, eq_comm, Nat.mul_eq_zero] at hratio
      exact hratio.resolve_right hdPower.ne'
    exact eq_of_isZero (isZero_toBinary64 hd hzero) (isZero_toBinary64 he hzero')
  · have hpos' : 0 < e.coefficient := by
      have hmul := Nat.mul_pos hpos hePower
      rw [hratio] at hmul
      exact Nat.pos_of_mul_pos_right hmul
    have hsign := negative_eq_of_signedRatio_eq hpos hpos' hdPower hePower hvalue
    rw [toBinary64_eq hd hdSize hpos, toBinary64_eq he heSize hpos', hsign,
      ofRatio_congr hdPower hePower hratio]
    exact eq_self (isNaN_ofRatio _ _ _)

/-! ### Rounded decimals -/

theorem scale_roundPlaces_le (places : Nat) (d : Decimal96) :
    (d.roundPlaces places).scale ≤ places := by
  rw [roundPlaces]
  split
  · assumption
  · exact Nat.le_refl _

theorem coefficient_le_of_abs_value_le {d : Decimal96} {size : Nat} (h : |d.value| ≤ size) :
    d.coefficient ≤ size * tenPow d.scale := by
  rw [value_eq, abs_signedRatio, div_le_iff₀ (Nat.cast_pos.mpr (tenPow_pos _))] at h
  exact_mod_cast h

/-- What is rounded to places has as many digits as its value and the places allow. -/
theorem coefficient_roundPlaces_le {d : Decimal96} {places digits : Nat}
    (h : |d.value| ≤ (tenPow digits : ℕ)) :
    (d.roundPlaces places).coefficient ≤ tenPow (digits + places) := by
  have hvalue : |(d.roundPlaces places).value| ≤ (tenPow digits : ℕ) := by
    rw [value_roundPlaces]
    exact abs_roundHalfAway_le h
  calc (d.roundPlaces places).coefficient
      ≤ tenPow digits * tenPow (d.roundPlaces places).scale := coefficient_le_of_abs_value_le hvalue
    _ ≤ tenPow digits * tenPow places :=
        Nat.mul_le_mul_left _ (tenPow_le_tenPow (scale_roundPlaces_le _ _))
    _ = tenPow (digits + places) := (tenPow_add _ _).symm

/-- **Decimals of one value are reported as equal numbers when they are rounded**, if the digits of
the value and the places are not more than 15 together. -/
theorem eq_toBinary64_roundPlaces {d e : Decimal96} {places digits : Nat}
    (hroom : digits + places ≤ 15) (hsize : |d.value| ≤ (tenPow digits : ℕ))
    (hvalue : d.value = e.value) :
    (d.roundPlaces places).toBinary64.eq (e.roundPlaces places).toBinary64 = true := by
  have hscale (d : Decimal96) : (d.roundPlaces places).scale ≤ 15 :=
    (scale_roundPlaces_le places d).trans (by omega)
  have hcoefficient {d : Decimal96} (h : |d.value| ≤ (tenPow digits : ℕ)) :
      (d.roundPlaces places).coefficient ≤ tenPow 15 :=
    (coefficient_roundPlaces_le h).trans (tenPow_le_tenPow hroom)
  refine eq_toBinary64 (hscale d) (hscale e) (hcoefficient hsize) (hcoefficient (hvalue ▸ hsize)) ?_
  rw [value_roundPlaces, value_roundPlaces, hvalue]

end Decimal96

end Registrar
