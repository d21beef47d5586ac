import Mathlib.Data.Rat.Floor
import Mathlib.Tactic.FieldSimp
import Mathlib.Tactic.Linarith
import Registrar.Number.Decimal96
import Registrar.Proofs.Json.Number
import Registrar.Proofs.Number.Order

/-!
# Values of decimals

A decimal stands for a rational number. Two decimals of one value may be written with different
scales, and zero may carry a sign, so what arithmetic does to decimals is said about their values.

All values are sizes with a sign, `± num / den`. Rounding acts on the size alone: it is the division
of natural numbers that the library computes with. The text of a decimal is read as the same
decimal, so the value of a text that was written is that of the decimal behind it.

## Main definitions

* `signedRatio` — a size with a sign.
* `Decimal.value`, `Decimal96.value` — the number that a decimal stands for.
* `roundHalfAway` — a rational number rounded to a number of places, a half going away from zero.

## Main results

* `roundHalfAway_signedRatio` — rounding is a division of sizes.
* `Decimal.ofText?_text` — the text of a decimal is read as the decimal.
* `Decimal96.value_roundPlaces` — rounding a decimal rounds its value.
-/

namespace Registrar

/-! ### Sizes with a sign -/

/-- The number `± num / den`. -/
def signedRatio (negative : Bool) (num den : Nat) : ℚ :=
  if negative then -(num / den) else num / den

variable {negative : Bool} {num den : Nat}

@[simp] theorem signedRatio_zero : signedRatio negative 0 den = 0 := by
  simp [signedRatio]

theorem abs_signedRatio : |signedRatio negative num den| = num / den := by
  have hsize : (0 : ℚ) ≤ num / den := by positivity
  cases negative
  · exact abs_of_nonneg hsize
  · exact (abs_neg _).trans (abs_of_nonneg hsize)

/-- A common factor cancels. -/
theorem signedRatio_mul_right {factor : Nat} (hfactor : 0 < factor) :
    signedRatio negative (num * factor) (den * factor) = signedRatio negative num den := by
  have hne : (factor : ℚ) ≠ 0 := by positivity
  simp only [signedRatio, Nat.cast_mul, mul_div_mul_right _ _ hne]

/-- An integer is its size with its sign. -/
theorem signedRatio_natAbs (n : ℤ) : signedRatio (decide (n < 0)) n.natAbs den = n / den := by
  rw [signedRatio, Nat.cast_natAbs, Int.cast_abs]
  by_cases hn : n < 0
  · have hcast : (n : ℚ) < 0 := Int.cast_lt_zero.mpr hn
    rw [if_pos (decide_eq_true hn), abs_of_neg hcast, neg_div, neg_neg]
  · have hcast : (0 : ℚ) ≤ n := Int.cast_nonneg (Int.not_lt.mp hn)
    rw [if_neg (by simpa using hn), abs_of_nonneg hcast]

theorem signedRatio_lt_zero_iff (hnum : 0 < num) (hden : 0 < den) :
    signedRatio negative num den < 0 ↔ negative = true := by
  have hsize : (0 : ℚ) < num / den := by positivity
  cases negative
  · simpa [signedRatio] using hsize.le
  · simpa [signedRatio] using hsize

/-! ### Rounding -/

/-- A number rounded to the given number of places, a half going away from zero. -/
def roundHalfAway (places : Nat) (q : ℚ) : ℚ :=
  let size : ℚ := ⌊|q| * tenPow places + 1 / 2⌋ / tenPow places
  if q < 0 then -size else size

theorem floor_eq_divAway (hden : 0 < den) : ⌊(num / den : ℚ) + 1 / 2⌋ = divAway num den := by
  have hne : (den : ℚ) ≠ 0 := by positivity
  have hsum : (num / den : ℚ) + 1 / 2 = ((2 * num + den : ℕ) : ℚ) / ((2 * den : ℕ) : ℚ) := by
    push_cast
    field_simp
  rw [hsum, Rat.floor_natCast_div_natCast, divAway, Int.natCast_ediv]

/-- Rounding a number is a division of its size. -/
theorem roundHalfAway_signedRatio (places : Nat) (hden : 0 < den) :
    roundHalfAway places (signedRatio negative num den) =
      signedRatio negative (divAway (num * tenPow places) den) (tenPow places) := by
  have hsize : |signedRatio negative num den| * tenPow places =
      ((num * tenPow places : ℕ) : ℚ) / den := by
    rw [abs_signedRatio]
    push_cast
    ring
  rw [roundHalfAway, hsize, floor_eq_divAway hden]
  obtain rfl | hnum := Nat.eq_zero_or_pos num
  · have hzero : divAway (0 * tenPow places) den = 0 := by
      rw [divAway, Nat.zero_mul]
      exact Nat.div_eq_of_lt (by omega)
    rw [hzero]
    simp
  · simp only [signedRatio_lt_zero_iff hnum hden]
    rfl

/-- Multiples of the last place are not rounded. -/
theorem divAway_mul_left (n : Nat) (hden : 0 < den) : divAway (n * den) den = n := by
  rw [divAway]
  refine Nat.div_eq_of_lt_le ?_ ?_
  · nlinarith
  · nlinarith

theorem divAway_mul_right {factor : Nat} (hfactor : 0 < factor) :
    divAway (num * factor) (den * factor) = divAway num den := by
  rw [divAway, divAway, ← Nat.mul_assoc, ← Nat.mul_assoc, ← Nat.add_mul,
    Nat.mul_div_mul_right _ _ hfactor]

/-! ### Decimals -/

namespace Decimal

/-- The number that a decimal stands for. -/
def value (d : Decimal) : ℚ :=
  signedRatio d.negative d.coefficient (tenPow d.scale)

theorem splitSign_signText (negative : Bool) {whole : List Char} (rest : List Char)
    (hwhole : Json.IsWhole whole) :
    splitSign (Json.signText negative ++ (whole ++ rest)) = (negative, whole ++ rest) := by
  cases negative with
  | true => rfl
  | false =>
    obtain ⟨c, digits, rfl⟩ := List.exists_cons_of_ne_nil hwhole.nonempty
    have hc : isDigit c = true := hwhole.digit c List.mem_cons_self
    rw [Json.signText, if_neg Bool.false_ne_true, List.nil_append, List.cons_append, splitSign]
    · rintro tail ⟨⟩
      cases hc
    · rintro tail ⟨⟩
      cases hc

/-- The text of a decimal is read as the decimal. -/
theorem ofText?_text (d : Decimal) : ofText? d.text = some d := by
  obtain ⟨negative, coefficient, scale⟩ := d
  rw [ofText?, Json.toList_text]
  by_cases hscale : scale = 0
  · subst hscale
    have hwhole := Json.isWhole_toDigits coefficient
    have hnil : NoDigit [] := nofun
    have hrow := splitSign_signText negative [] hwhole
    have htake := takeWhile_isDigit hwhole.digit hnil
    have hdrop := dropWhile_isDigit hwhole.digit hnil
    rw [List.append_nil] at hrow htake hdrop
    rw [Json.unsignedText_of_whole, hrow]
    dsimp only
    rw [htake, hdrop]
    simp [hwhole.nonempty, natOfDigits_toDigits]
  · obtain ⟨whole, fraction, htext, hwhole, hdigits, hlength⟩ :=
      Json.unsignedText_of_places (d := ⟨negative, coefficient, scale⟩) hscale
    have hpoint : NoDigit ('.' :: fraction) := by
      rintro c ⟨⟩
      rfl
    have hfraction : fraction.all isDigit = true := by
      refine List.all_eq_true.mpr fun c hc => ?_
      have hmem := List.mem_append_right whole hc
      exact Json.isDigit_of_mem_paddedDigits (hdigits ▸ hmem)
    rw [htext, splitSign_signText _ _ hwhole]
    dsimp only
    rw [takeWhile_isDigit hwhole.digit hpoint, dropWhile_isDigit hwhole.digit hpoint]
    simp [hfraction, hwhole.nonempty, hdigits, Json.natOfDigits_paddedDigits, hlength]

end Decimal

/-- The text of a finite number is read as its decimal. -/
theorem Binary64.ofText?_plainText {x : Binary64} (h : x.isFinite = true) :
    Decimal.ofText? x.plainText = some x.plainDecimal := by
  rw [plainText, isNaN_eq_false h, h, if_neg Bool.false_ne_true, if_pos rfl, Decimal.ofText?_text]

namespace Decimal96

/-- The number that a decimal stands for. -/
def value (d : Decimal96) : ℚ :=
  d.toDecimal.value

theorem value_eq (d : Decimal96) :
    d.value = signedRatio d.negative d.coefficient (tenPow d.scale) := rfl

@[simp] theorem value_zero : zero.value = 0 := by
  simp [value_eq, zero]

/-- Taking the sign from a zero does not change the value. -/
@[simp] theorem value_unsignedZero {coefficient scale : Nat} :
    (unsignedZero negative coefficient scale).value =
      signedRatio negative coefficient (tenPow scale) := by
  rw [unsignedZero, value_eq]
  obtain rfl | hpos := Nat.eq_zero_or_pos coefficient
  · simp
  · have hsign : (coefficient != 0) = true := bne_iff_ne.mpr hpos.ne'
    rw [hsign, Bool.and_true]

/-- Rounding a decimal rounds its value. -/
theorem value_roundPlaces (places : Nat) (d : Decimal96) :
    (d.roundPlaces places).value = roundHalfAway places d.value := by
  rw [value_eq d, roundHalfAway_signedRatio places (tenPow_pos _), roundPlaces]
  split
  · next hscale =>
    have hpower : tenPow places = tenPow (places - d.scale) * tenPow d.scale := by
      rw [← tenPow_add, Nat.sub_add_cancel hscale]
    rw [hpower, ← Nat.mul_assoc, divAway_mul_left _ (tenPow_pos _), Nat.mul_comm (tenPow _),
      signedRatio_mul_right (tenPow_pos _), value_eq]
  · next hscale =>
    have hpower : tenPow d.scale = tenPow (d.scale - places) * tenPow places := by
      rw [← tenPow_add, Nat.sub_add_cancel (by omega)]
    rw [value_unsignedZero, hpower, divAway_mul_right (tenPow_pos _)]

end Decimal96

end Registrar
