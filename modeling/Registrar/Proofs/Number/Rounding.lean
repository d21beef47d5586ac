import Registrar.Number.Shortest
import Registrar.Proofs.Number.Power

/-!
# Sizes that are rounded to a number

The neighbourhood of a finite number holds the sizes that are nearer to it than to any other number,
and the ends if the number is even. Here is the reason why it is what it should be: every ratio in
the neighbourhood is rounded to the number.

A ratio is rounded on the scale of its own leading digit. This is the scale of the number, with one
exception: a power of two takes in some sizes from the scale below, and the gap there is half as
wide. Both scales lead to the same pattern, because patterns of neighbouring scales follow each
other without a gap.

## Main results

* `divEven_eq` — when a quotient is rounded to a given number.
* `ofRatio_of_contains` — ratios in the neighbourhood of a number are rounded to it.
-/

namespace Registrar

/-! ### Quotients -/

/-- A quotient is rounded to `q` if it is at most half a step away, and less if `q` is odd. -/
theorem divEven_eq {num den q : Nat} (hden : 0 < den) (hlow : 2 * (q * den) ≤ 2 * num + den)
    (hhigh : 2 * num ≤ 2 * (q * den) + den)
    (hodd : q % 2 = 1 → 2 * (q * den) < 2 * num + den ∧ 2 * num < 2 * (q * den) + den) :
    divEven num den = q := by
  have hdiv := Nat.div_add_mod' num den
  have hmod := Nat.mod_lt num hden
  rw [divEven]
  generalize num / den = k at hdiv ⊢
  generalize num % den = r at hdiv hmod ⊢
  have hle : k ≤ q := by
    refine Nat.le_of_not_lt fun hlt => ?_
    have hmul := Nat.mul_le_mul_right den (Nat.succ_le_of_lt hlt)
    rw [Nat.succ_mul] at hmul
    omega
  have hge : q ≤ k + 1 := by
    refine Nat.le_of_not_lt fun hlt => ?_
    have hmul := Nat.mul_le_mul_right den (Nat.succ_le_of_lt hlt)
    rw [Nat.succ_mul, Nat.succ_mul] at hmul
    omega
  obtain rfl | rfl : q = k ∨ q = k + 1 := by omega
  · split
    · rfl
    · split
      · omega
      · have heven : q % 2 ≠ 1 := fun h => by
          have := hodd h
          omega
        omega
  · rw [Nat.add_mul, Nat.one_mul] at hlow hhigh hodd
    split
    · omega
    · split
      · rfl
      · have heven : (k + 1) % 2 ≠ 1 := fun h => by
          have := hodd h
          omega
        omega

/-! ### Leading digits -/

theorem log2_le {n k : Nat} (h : n < twoPow (k + 1)) : n.log2 ≤ k := by
  by_cases hn : n = 0
  · subst hn
    exact Nat.zero_le k
  · exact Nat.le_of_lt_succ ((Nat.log2_lt hn).mpr h)

theorem le_log2 {n k : Nat} (h : twoPow k ≤ n) : k ≤ n.log2 :=
  (Nat.le_log2 (Nat.ne_of_gt (Nat.lt_of_lt_of_le (twoPow_pos k) h))).mpr h

namespace Binary64

/-! ### The parts of a pattern -/

theorem ofMagnitude_magnitude (x : Binary64) : ofMagnitude x.negative x.magnitude = x := by
  obtain ⟨bits⟩ := x
  have hlt := bits.toNat_lt
  have h63 : twoPow 63 = 9223372036854775808 := rfl
  rw [ofMagnitude, mk.injEq, ← UInt64.toNat_inj, UInt64.toNat_ofNat']
  simp only [magnitude, negative, h63]
  by_cases h : 9223372036854775808 ≤ bits.toNat
  · rw [if_pos (decide_eq_true h)]
    omega
  · rw [if_neg (by simpa using h)]
    omega

theorem magnitude_eq (x : Binary64) : x.magnitude = x.exponent * twoPow 52 + x.significand := by
  rw [exponent, significand]
  have hdiv := Nat.div_add_mod' x.magnitude (twoPow 52)
  split
  · next h => rw [Nat.div_eq_of_lt h, Nat.zero_sub, Nat.zero_mul, Nat.zero_add]
  · next h =>
    have hpos : 0 < x.magnitude / twoPow 52 := Nat.div_pos (Nat.le_of_not_lt h) (twoPow_pos 52)
    obtain ⟨k, hk⟩ := Nat.exists_eq_succ_of_ne_zero (Nat.ne_of_gt hpos)
    rw [hk, Nat.succ_mul] at hdiv
    rw [hk, Nat.succ_sub_one]
    omega

theorem significand_lt (x : Binary64) : x.significand < twoPow 53 := by
  have hmod := Nat.mod_lt x.magnitude (twoPow_pos 52)
  have h53 : twoPow 53 = twoPow 52 * 2 := rfl
  rw [significand]
  split <;> omega

theorem le_significand {x : Binary64} (h : 0 < x.exponent) : twoPow 52 ≤ x.significand := by
  rw [significand]
  split
  · next hlt =>
    rw [exponent, Nat.div_eq_of_lt hlt] at h
    exact absurd h (by decide)
  · exact Nat.le_add_right _ _

theorem exponent_lt {x : Binary64} (h : x.isFinite = true) : x.exponent < 2046 := by
  have hfinite : x.magnitude < infiniteMagnitude := by simpa [isFinite] using h
  have hdiv : x.magnitude / twoPow 52 < 2047 := Nat.div_lt_of_lt_mul (Nat.mul_comm _ _ ▸ hfinite)
  rw [exponent]
  omega

theorem significand_pos {x : Binary64} (h : x.isZero = false) : 0 < x.significand := by
  have hne : x.magnitude ≠ 0 := by simpa [isZero] using h
  have hpow := twoPow_pos 52
  rw [significand]
  split <;> omega

/-! ### Neighbourhoods -/

theorem ratio_le_iff {num den num' den' k p u : Nat} (hden : 0 < den) (hden' : 0 < den')
    (hvalue : num * den' = num' * den) :
    (k * (den * p) ≤ num * u ↔ k * (den' * p) ≤ num' * u) ∧
      (num * u ≤ k * (den * p) ↔ num' * u ≤ k * (den' * p)) := by
  have hscale : k * (den * p) * den' = k * (den' * p) * den := by ac_rfl
  have hsize : num * u * den' = num' * u * den := by
    rw [Nat.mul_right_comm, hvalue, Nat.mul_right_comm]
  constructor
  · rw [← Nat.mul_le_mul_right_iff hden', hscale, hsize, Nat.mul_le_mul_right_iff hden]
  · rw [← Nat.mul_le_mul_right_iff hden', hscale, hsize, Nat.mul_le_mul_right_iff hden]

theorem Neighbourhood.contains_iff {n : Neighbourhood} {num den : Nat} :
    n.contains num den = true ↔ if n.closed then
      n.low * (den * twoPow n.scale) ≤ num * twoPow 1076 ∧
        num * twoPow 1076 ≤ n.high * (den * twoPow n.scale)
    else n.low * (den * twoPow n.scale) < num * twoPow 1076 ∧
      num * twoPow 1076 < n.high * (den * twoPow n.scale) := by
  rw [contains]
  split <;> exact decide_eq_true_iff

/-- Ratios of the same value are in the same neighbourhoods. -/
theorem Neighbourhood.contains_congr {n : Neighbourhood} {num den num' den' : Nat}
    (h : n.contains num den = true) (hden : 0 < den) (hden' : 0 < den')
    (hvalue : num * den' = num' * den) : n.contains num' den' = true := by
  have hiff (k : Nat) := ratio_le_iff (k := k) (p := twoPow n.scale) (u := twoPow 1076) hden hden'
    hvalue
  rw [contains_iff] at h ⊢
  simp only [← Nat.not_le] at h ⊢
  rwa [← (hiff n.low).1, ← (hiff n.low).2, ← (hiff n.high).1, ← (hiff n.high).2]

/-- The bounds of a neighbourhood in halves of the last digit, both strict if the number is odd. The
lower end of a power of two is nearer. -/
theorem bounds_of_contains {x : Binary64} {num den size digit : Nat}
    (hsize : 4 * (num * unitsPerOne) = size) (hdigit : den * twoPow x.exponent = digit)
    (h : x.neighbourhood.contains num den = true) :
    4 * (x.significand * digit) ≤ size + 2 * digit ∧
      size ≤ 4 * (x.significand * digit) + 2 * digit ∧
      (x.significand % 2 = 1 → 4 * (x.significand * digit) < size + 2 * digit ∧
        size < 4 * (x.significand * digit) + 2 * digit) ∧
      (x.significand = twoPow 52 → 0 < x.exponent →
        4 * (x.significand * digit) ≤ size + digit) := by
  have hunits : num * twoPow 1076 = size := by
    have hfour : twoPow 1076 = 4 * unitsPerOne := by
      rw [twoPow_succ, twoPow_succ, unitsPerOne]
      omega
    rw [hfour, Nat.mul_left_comm, hsize]
  have hhigh : (4 * x.significand + 2) * digit = 4 * (x.significand * digit) + 2 * digit := by
    rw [Nat.add_mul, Nat.mul_assoc]
  have hlow (k : Nat) :
      4 * (x.significand * digit) ≤ (4 * x.significand - k) * digit + k * digit := by
    rw [← Nat.add_mul, ← Nat.mul_assoc]
    exact Nat.mul_le_mul_right digit (by omega)
  have hlow2 := hlow 2
  have hlow1 := hlow 1
  simp only [Neighbourhood.contains_iff, neighbourhood, hunits, hdigit, hhigh,
    beq_iff_eq] at h
  by_cases hpower : x.significand = twoPow 52 ∧ 0 < x.exponent
  · rw [if_pos hpower] at h
    have heven : x.significand % 2 = 0 := by rw [hpower.1]; rfl
    rw [if_pos heven] at h
    refine ⟨by omega, by omega, fun hodd => absurd hodd (by omega), fun _ _ => by omega⟩
  · rw [if_neg hpower] at h
    refine ⟨?_, ?_, ?_, fun hm he => absurd ⟨hm, he⟩ hpower⟩
    · split at h <;> omega
    · split at h <;> omega
    · intro hodd
      rw [if_neg (by omega)] at h
      omega

/-! ### Rounding -/

/-- The scale on which a ratio in a neighbourhood is rounded. -/
theorem scale_of_contains {x : Binary64} {num den : Nat} (hden : 0 < den)
    (h : x.neighbourhood.contains num den = true) :
    let scale := (num * unitsPerOne / den).log2 - 52
    scale = x.exponent ∨ scale + 1 = x.exponent ∧ x.significand = twoPow 52 ∧
      num * unitsPerOne < twoPow 52 * (den * twoPow x.exponent) := by
  obtain ⟨hlow, hhigh, -, hpower⟩ := bounds_of_contains rfl rfl h
  generalize hsize : num * unitsPerOne = size at hlow hhigh hpower ⊢
  generalize hdigit : den * twoPow x.exponent = digit at hlow hhigh hpower ⊢
  have hpos : 0 < digit := hdigit ▸ Nat.mul_pos hden (twoPow_pos _)
  have hbelow (k : Nat) (hk : size < twoPow k * digit) : size / den < twoPow (k + x.exponent) := by
    rw [twoPow_add, Nat.div_lt_iff_lt_mul hden, Nat.mul_assoc, Nat.mul_comm _ den, hdigit]
    exact hk
  have habove (k : Nat) (hk : twoPow k * digit ≤ size) : twoPow (k + x.exponent) ≤ size / den := by
    rw [twoPow_add, Nat.le_div_iff_mul_le hden, Nat.mul_assoc, Nat.mul_comm _ den, hdigit]
    exact hk
  have hdouble : twoPow 52 * digit = 2 * (twoPow 51 * digit) := by
    rw [twoPow_succ, Nat.mul_comm (twoPow 51), Nat.mul_assoc]
  have hdouble' : twoPow 53 * digit = 2 * (twoPow 52 * digit) := by
    rw [twoPow_succ, Nat.mul_comm (twoPow 52), Nat.mul_assoc]
  have hm := Nat.mul_le_mul_right digit (Nat.succ_le_of_lt x.significand_lt)
  rw [Nat.succ_mul] at hm
  have hupper : (size / den).log2 ≤ 52 + x.exponent := by
    refine log2_le ?_
    rw [Nat.add_right_comm]
    exact hbelow 53 (by omega)
  intro scale
  by_cases he : x.exponent = 0
  · exact .inl (by omega)
  have hm52 := le_significand (Nat.pos_of_ne_zero he)
  by_cases hsmall : size < twoPow 52 * digit
  · -- Only a power of two takes in sizes from the scale below.
    have hm_eq : x.significand = twoPow 52 := by
      refine Nat.le_antisymm (Nat.le_of_not_lt fun hlt => ?_) hm52
      have hmul := Nat.mul_le_mul_right digit (Nat.succ_le_of_lt hlt)
      rw [Nat.succ_mul] at hmul
      omega
    have hpower := hpower hm_eq (Nat.pos_of_ne_zero he)
    rw [hm_eq] at hpower
    have hlog := le_log2 (habove 51 (by omega))
    have hlog' : (size / den).log2 ≤ 51 + x.exponent := by
      refine log2_le ?_
      rw [Nat.add_right_comm]
      exact hbelow 52 hsmall
    exact .inr ⟨by omega, hm_eq, hsmall⟩
  · have hlog := le_log2 (habove 52 (Nat.le_of_not_lt hsmall))
    exact .inl (by omega)

/-- **Ratios in the neighbourhood of a number are rounded to it.** -/
theorem ofRatio_of_contains {x : Binary64} {num den : Nat} (hfinite : x.isFinite = true)
    (hden : 0 < den) (h : x.neighbourhood.contains num den = true) :
    ofRatio x.negative num den = x := by
  obtain ⟨hlow, hhigh, hodd, hpower⟩ := bounds_of_contains rfl rfl h
  have hmagnitude : (num * unitsPerOne / den).log2 - 52 = x.exponent ∧
      divEven (num * unitsPerOne) (den * twoPow x.exponent) = x.significand ∨
    (num * unitsPerOne / den).log2 - 52 + 1 = x.exponent ∧
      divEven (num * unitsPerOne) (den * twoPow (x.exponent - 1)) = twoPow 53 ∧
        x.significand = twoPow 52 := by
    obtain hscale | ⟨hscale, hm, hsmall⟩ := scale_of_contains hden h
    · refine .inl ⟨hscale, divEven_eq (Nat.mul_pos hden (twoPow_pos _)) (by omega) (by omega) ?_⟩
      intro hm
      have := hodd hm
      omega
    · have hpower := hpower hm (by omega)
      rw [hm] at hpower
      have hdigit : den * twoPow x.exponent = 2 * (den * twoPow (x.exponent - 1)) := by
        rw [← hscale, Nat.add_sub_cancel, twoPow_succ, ← Nat.mul_assoc, Nat.mul_comm]
      have h53 : twoPow 53 = 2 * twoPow 52 := rfl
      have hswap (k : Nat) : twoPow 52 * (2 * k) = 2 * (twoPow 52 * k) := Nat.mul_left_comm _ _ _
      rw [hdigit, hswap] at hpower hsmall
      refine .inr ⟨hscale, divEven_eq (Nat.mul_pos hden (twoPow_pos _)) ?_ ?_ ?_, hm⟩
      · rw [h53, Nat.mul_assoc]
        omega
      · rw [h53, Nat.mul_assoc]
        omega
      · intro h
        cases h
  have hinfinite : x.magnitude < infiniteMagnitude := by simpa [isFinite] using hfinite
  have heq : Nat.min (((num * unitsPerOne / den).log2 - 52) * twoPow 52 +
      divEven (num * unitsPerOne)
        (den * twoPow ((num * unitsPerOne / den).log2 - 52))) infiniteMagnitude = x.magnitude := by
    have hparts := x.magnitude_eq
    obtain ⟨hscale, hdigits⟩ | ⟨hscale, hdigits, hm⟩ := hmagnitude
    · rw [hscale, hdigits, ← hparts]
      exact Nat.min_eq_left (Nat.le_of_lt hinfinite)
    · have hpattern : (x.exponent - 1) * twoPow 52 + twoPow 53 = x.magnitude := by
        rw [hparts, hm, ← hscale, Nat.add_sub_cancel, Nat.succ_mul, Nat.add_assoc]
        rfl
      rw [← Nat.eq_sub_of_add_eq hscale] at hdigits
      rw [hdigits, Nat.eq_sub_of_add_eq hscale, hpattern]
      exact Nat.min_eq_left (Nat.le_of_lt hinfinite)
  rw [ofRatio]
  exact (congrArg (ofMagnitude x.negative) heq).trans x.ofMagnitude_magnitude

end Binary64

end Registrar
