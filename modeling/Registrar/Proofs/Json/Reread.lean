import Registrar.Json.Parser
import Registrar.Proofs.Number.Layout
import Registrar.Proofs.Number.Stepwise

/-!
# The text of a number is read

The text of a finite number has one of three layouts: digits with `.0` after them, digits with a
point among them, or digits with an exponent. All three are a sign, whole digits, a fraction and an
exponent, so each of them stands for a decimal, and this is the shortest one of the number or has
its value.

A reader that rounds in steps need not find the nearest number to it. What it finds is finite, but
it may be another number: `97.33333333333333` is read as a smaller one, and so is `8000000000000007`
when it is written with `.0` after it. Decimals of 15 digits that are neither very large nor very
small do not have this problem, because none of the steps is rounded before the last one.

## Main definitions

* `IsDecimalText` — a text of a number that stands for a decimal.
* `Binary64.jsonDecimal` — the decimal that the text of a number stands for.
* `Binary64.reread` — the number that is read from the text of a number.

## Main results

* `scanNumber_jsonText` — the text of a finite number is read as a finite number.
* `Binary64.reread_eq_self` — numbers with short decimals are read back.
-/

namespace Registrar

namespace Json

/-! ### Texts that stand for decimals -/

/-- A text that is a sign, whole digits, a fraction and an exponent, of which the last two may be
missing but not both. It stands for a decimal. -/
inductive IsDecimalText (negative : Bool) : List Char → Scientific → Prop where
  | intro (whole : List Char) (fraction : Option (List Char)) (exponent : Option (Bool × List Char))
      (hwhole : IsWhole whole)
      (hfraction : ∀ digits ∈ fraction, digits ≠ [] ∧ ∀ c ∈ digits, isDigit c = true)
      (hexponent : ∀ part ∈ exponent, part.2 ≠ [] ∧ ∀ c ∈ part.2, isDigit c = true)
      (hpart : fraction ≠ none ∨ exponent ≠ none) :
      IsDecimalText negative
        (signText negative ++ (whole ++ (fractionText fraction ++ exponentText exponent)))
        ⟨natOfDigits (whole ++ fraction.getD []),
          exponentValue exponent - (fraction.getD []).length⟩

variable {negative : Bool} {text rest : List Char} {s : Scientific}

theorem endsNumber_nil : EndsNumber [] := by
  rintro c ⟨⟩

/-- **A text that stands for a decimal is read as its digits times a power of ten**, if the digits
fit 64 bits. -/
theorem IsDecimalText.scanNumber (h : IsDecimalText negative text s)
    (hfits : s.coefficient < twoPow 64) (hrest : EndsNumber rest) :
    scanNumber (text ++ rest) = (Binary64.scaled? s.coefficient s.exponent).map fun x =>
      (.real (if negative then x.neg else x), rest) := by
  obtain ⟨whole, fraction, exponent, hwhole, hfraction, hexponent, hpart⟩ := h
  have hscan := scanNumber_parts negative fraction exponent hwhole hfraction hexponent hrest
  have hreal : ofParts? negative whole fraction (exponent.map fun _ => exponentValue exponent) =
      (Binary64.ofDigits? negative whole (fraction.getD []) (exponentValue exponent)).map real := by
    have hsome : (fraction.isNone &&
        (exponent.map fun _ => exponentValue exponent).isNone) = false := by
      cases fraction with
      | some digits => rfl
      | none =>
        cases exponent with
        | some part => rfl
        | none => exact absurd hpart (by simp)
    rw [ofParts?, hsome, Bool.false_and, if_neg Bool.false_ne_true]
    cases exponent <;> rfl
  rw [hreal, Binary64.ofDigits?_of_lt hfits, Option.map_map, Option.map_map] at hscan
  simpa only [List.append_assoc, Function.comp_def] using hscan

theorem exponentValue_eq_getD (exponent : Option (Bool × List Char)) :
    exponentValue exponent = (exponent.map fun _ => exponentValue exponent).getD 0 := by
  cases exponent <;> rfl

/-- **A text stands for one decimal only.** -/
theorem IsDecimalText.unique {negative' : Bool} {s' : Scientific}
    (h : IsDecimalText negative text s) (h' : IsDecimalText negative' text s') :
    negative = negative' ∧ s = s' := by
  obtain ⟨whole, fraction, exponent, hwhole, hfraction, hexponent, -⟩ := h
  generalize htext : signText negative ++ (whole ++ (fractionText fraction ++
    exponentText exponent)) = text at h'
  obtain ⟨whole', fraction', exponent', hwhole', hfraction', hexponent', -⟩ := h'
  have hends := ends_exponentText exponent endsNumber_nil
  have hends' := ends_exponentText exponent' endsNumber_nil
  rw [List.append_nil] at hends hends'
  -- Each part is what its reader finds.
  have hsign := congrArg splitMinus htext
  rw [hwhole.splitMinus, hwhole'.splitMinus, Prod.mk.injEq] at hsign
  have hdigits := congrArg scanWhole hsign.2
  rw [hwhole.scanWhole (noDigit_fractionText hends.1),
    hwhole'.scanWhole (noDigit_fractionText hends'.1), Option.some.injEq, Prod.mk.injEq] at hdigits
  have hplaces := congrArg scanFraction hdigits.2
  rw [scanFraction_fractionText hfraction hends.1 hends.2,
    scanFraction_fractionText hfraction' hends'.1 hends'.2, Option.some.injEq,
    Prod.mk.injEq] at hplaces
  have hpower := congrArg scanExponent hplaces.2
  rw [← List.append_nil (exponentText exponent), ← List.append_nil (exponentText exponent'),
    scanExponent_exponentText hexponent endsNumber_nil,
    scanExponent_exponentText hexponent' endsNumber_nil, Option.some.injEq,
    Prod.mk.injEq] at hpower
  refine ⟨hsign.1, ?_⟩
  rw [hdigits.1, hplaces.1, exponentValue_eq_getD exponent, hpower.1,
    ← exponentValue_eq_getD exponent']

/-- A whole number with one digit after its point. -/
theorem isDecimalText_whole (negative : Bool) (n : Nat) :
    IsDecimalText negative ((Decimal.mk negative n 0).text ++ ".0").toList ⟨10 * n, -1⟩ := by
  have htext : IsDecimalText negative _ _ := .intro (Nat.toDigits 10 n) (some ['0']) none
    (isWhole_toDigits n) (by rintro digits ⟨⟩; simp; rfl) (by simp) (by simp)
  rw [Option.getD_some, natOfDigits_append_zero, natOfDigits_toDigits] at htext
  rw [String.toList_append, toList_text, unsignedText_of_whole, List.append_assoc]
  exact htext

/-- A decimal with places. -/
theorem isDecimalText_places {d : Decimal} (h : d.scale ≠ 0) :
    IsDecimalText d.negative d.text.toList ⟨d.coefficient, -d.scale⟩ := by
  obtain ⟨whole, fraction, hunsigned, hwhole, hdigits, hlength⟩ := unsignedText_of_places h
  have htext : IsDecimalText d.negative _ _ := .intro whole (some fraction) none hwhole
    (fun digits hmem => ?_) (by simp) (by simp)
  · rw [Option.getD_some, hdigits, natOfDigits_paddedDigits, hlength, exponentValue,
      Int.zero_sub] at htext
    rw [toList_text, hunsigned]
    simpa only [fractionText, exponentText, List.append_nil] using htext
  · obtain rfl := Option.mem_some.mp hmem
    refine ⟨fun hnil => h ?_, fun c hc => ?_⟩
    · rw [← hlength, hnil]
      rfl
    · exact isDigit_of_mem_paddedDigits (hdigits ▸ List.mem_append_right whole hc)

/-- Digits with a point after the first one, if there are more, and an exponent. -/
theorem isDecimalText_scientific (negative : Bool) {coefficient : Nat} {d : Char}
    {tail : List Char} {exponent power : Int} (hcoefficient : coefficient ≠ 0)
    (hdigits : Nat.toDigits 10 coefficient = d :: tail)
    (hpower : (tail.length : Int) + exponent = power) :
    IsDecimalText negative (signText negative ++
      (d :: ((if tail.isEmpty then [] else '.' :: tail) ++
        'e' :: (if power < 0 then '-' else '+') :: Nat.toDigits 10 power.natAbs)))
      ⟨coefficient, exponent⟩ := by
  have hd : d ≠ '0' := by
    have hhead := head?_toDigits_ne_zero (Nat.pos_of_ne_zero hcoefficient)
    simpa [hdigits] using hhead
  have hdigit : ∀ c ∈ d :: tail, isDigit c = true := fun c hc =>
    isDigit_of_mem_toDigits (hdigits ▸ hc)
  have hwhole : IsWhole [d] :=
    ⟨fun c hc => hdigit c (List.mem_cons.mpr (.inl (List.mem_singleton.mp hc))),
      List.cons_ne_nil d [], fun h => absurd (Option.some.inj h) hd⟩
  have htext : IsDecimalText negative _ _ := .intro [d]
    (if tail.isEmpty then none else some tail)
    (some (decide (power < 0), Nat.toDigits 10 power.natAbs)) hwhole (fun digits hmem => ?_)
    (fun part hmem => ?_) (by simp)
  · have hfraction : (if tail.isEmpty then none else some tail).getD [] = tail := by
      cases tail <;> rfl
    have hshift : power - (tail.length : Int) = exponent := by omega
    have hall : natOfDigits ([d] ++ tail) = coefficient := by
      rw [List.singleton_append, ← hdigits, natOfDigits_toDigits]
    rw [hfraction, exponentValue_toDigits, hshift, hall] at htext
    cases tail with
    | nil => simpa [fractionText, exponentText] using htext
    | cons c tail => simpa [fractionText, exponentText] using htext
  · split at hmem
    · cases hmem
    · next htail =>
      obtain rfl := Option.mem_some.mp hmem
      exact ⟨by simpa using htail, fun c hc => hdigit c (List.mem_cons_of_mem d hc)⟩
  · obtain rfl := Option.mem_some.mp hmem
    exact ⟨Nat.toDigits_ne_nil, fun c hc => isDigit_of_mem_toDigits hc⟩

end Json

namespace Binary64

/-! ### The decimal of a text -/

/-- The decimal that the text of a finite number stands for. Digits that reach to the point have a
zero after it. -/
def jsonDecimal (x : Binary64) : Scientific :=
  let s := x.shortest jsonLayout.tie
  let point : Int := (Nat.toDigits 10 s.coefficient).length + s.exponent
  if 0 ≤ s.exponent ∧ (s.coefficient = 0 ∨ point ≤ jsonLayout.largest) then
    ⟨10 * (s.coefficient * tenPow s.exponent.toNat), -1⟩
  else s

variable {x : Binary64}

/-- **The text of a number stands for its decimal.** -/
theorem isDecimalText_jsonText (x : Binary64) :
    Json.IsDecimalText x.negative x.jsonText.toList x.jsonDecimal := by
  rw [jsonDecimal, jsonText]
  generalize x.shortest jsonLayout.tie = s
  dsimp only
  by_cases hpositional : s.coefficient = 0 ∨
      (-(jsonLayout.smallest : Int) < ((Nat.toDigits 10 s.coefficient).length : Int) + s.exponent ∧
        ((Nat.toDigits 10 s.coefficient).length : Int) + s.exponent ≤ jsonLayout.largest)
  · rw [if_pos hpositional]
    obtain hneg | hnonneg := Int.lt_or_le s.exponent 0
    · have hdecimal : s.toDecimal x.negative = ⟨x.negative, s.coefficient, (-s.exponent).toNat⟩ :=
        if_neg (Int.not_le.mpr hneg)
      have hscale : (s.toDecimal x.negative).scale ≠ 0 := by
        rw [hdecimal]
        dsimp only
        omega
      have htext := Json.isDecimalText_places hscale
      have hexponent : -((-s.exponent).toNat : Int) = s.exponent := by omega
      rw [if_neg hscale, if_neg fun h => absurd h.1 (Int.not_le.mpr hneg)]
      rw [hdecimal, hexponent] at htext
      rwa [hdecimal]
    · have hdecimal : s.toDecimal x.negative =
          ⟨x.negative, s.coefficient * tenPow s.exponent.toNat, 0⟩ := if_pos hnonneg
      rw [hdecimal, if_pos rfl, if_pos ⟨hnonneg, hpositional.imp_right And.right⟩]
      exact Json.isDecimalText_whole x.negative _
  · rw [if_neg hpositional]
    rw [not_or] at hpositional
    obtain ⟨d, tail, hdigits⟩ := List.exists_cons_of_ne_nil
      (Nat.toDigits_ne_nil (n := s.coefficient) (b := 10))
    have hlength := congrArg List.length hdigits
    have hpower : (tail.length : Int) + s.exponent =
        ((Nat.toDigits 10 s.coefficient).length : Int) + s.exponent - 1 := by
      rw [hlength, List.length_cons]
      omega
    have hdecimal : ¬(0 ≤ s.exponent ∧ (s.coefficient = 0 ∨
        ((Nat.toDigits 10 s.coefficient).length : Int) + s.exponent ≤ jsonLayout.largest)) := by
      rintro ⟨hnonneg, hzero | hpoint⟩
      · exact hpositional.1 hzero
      · refine hpositional.2 ⟨?_, hpoint⟩
        dsimp only [jsonLayout]
        omega
    rw [if_neg hdecimal, Json.toList_signed]
    have htext := Json.isDecimalText_scientific x.negative hpositional.1 hdigits hpower
    simpa [hdigits] using htext

/-- The digits of a text fit 64 bits. -/
theorem coefficient_jsonDecimal_lt (hfinite : x.isFinite = true) :
    x.jsonDecimal.coefficient < twoPow 64 := by
  rw [jsonDecimal]
  split
  · next h =>
    -- There are at most 16 digits before the point.
    have hdigits := lt_tenPow_length (x.shortest jsonLayout.tie).coefficient
    have hbound : (x.shortest jsonLayout.tie).coefficient *
        tenPow (x.shortest jsonLayout.tie).exponent.toNat < tenPow 16 := by
      obtain ⟨hnonneg, hzero | hpoint⟩ := h
      · rw [hzero, Nat.zero_mul]
        exact tenPow_pos 16
      · refine Nat.lt_of_lt_of_le (Nat.mul_lt_mul_of_pos_right hdigits (tenPow_pos _)) ?_
        rw [← tenPow_add]
        have hlargest : jsonLayout.largest = 16 := rfl
        exact tenPow_le_tenPow (by omega)
    have hfits : 10 * tenPow 16 < twoPow 64 := by decide
    dsimp only
    omega
  · exact (coefficient_shortest_lt _ hfinite).trans (by decide)

/-- The digits of a text can be multiplied with their power of ten. -/
theorem exists_scaled?_jsonDecimal (hfinite : x.isFinite = true) :
    ∃ y, scaled? x.jsonDecimal.coefficient x.jsonDecimal.exponent = some y := by
  have hfits := coefficient_jsonDecimal_lt hfinite
  rw [jsonDecimal] at hfits ⊢
  split
  · next h =>
    rw [if_pos h] at hfits
    obtain ⟨y, hy, -⟩ := scaled?_of_neg hfits (show (-1 : Int) < 0 by decide)
    exact ⟨y, hy⟩
  · exact exists_scaled?_shortest _ hfinite

/-! ### What is read -/

/-- The number that is read from the text of a number. -/
def reread (x : Binary64) : Binary64 :=
  match Json.scanNumber x.jsonText.toList with
  | some (.real y, _) => y
  | _ => x

end Binary64

namespace Json

variable {x y : Binary64} {rest : List Char}

theorem scanNumber_jsonText_of_scaled? (hfinite : x.isFinite = true)
    (h : Binary64.scaled? x.jsonDecimal.coefficient x.jsonDecimal.exponent = some y)
    (hrest : EndsNumber rest) : scanNumber (x.jsonText.toList ++ rest) =
      some (.real (if x.negative then y.neg else y), rest) := by
  rw [x.isDecimalText_jsonText.scanNumber (Binary64.coefficient_jsonDecimal_lt hfinite) hrest, h]
  rfl

theorem reread_of_scaled? (hfinite : x.isFinite = true)
    (h : Binary64.scaled? x.jsonDecimal.coefficient x.jsonDecimal.exponent = some y) :
    x.reread = if x.negative then y.neg else y := by
  have hscan := scanNumber_jsonText_of_scaled? hfinite h endsNumber_nil
  rw [List.append_nil] at hscan
  rw [Binary64.reread, hscan]

/-- **The text of a finite number is read**, and what is read is the same whatever follows. -/
theorem scanNumber_jsonText (hfinite : x.isFinite = true) (hrest : EndsNumber rest) :
    scanNumber (x.jsonText.toList ++ rest) = some (.real x.reread, rest) := by
  obtain ⟨y, hy⟩ := Binary64.exists_scaled?_jsonDecimal hfinite
  rw [reread_of_scaled? hfinite hy]
  exact scanNumber_jsonText_of_scaled? hfinite hy hrest

end Json

namespace Binary64

variable {x : Binary64}

/-- **What is read of a finite number is finite.** -/
theorem isFinite_reread (hfinite : x.isFinite = true) : x.reread.isFinite = true := by
  obtain ⟨y, hy⟩ := exists_scaled?_jsonDecimal hfinite
  have hy' := isFinite_of_scaled? (coefficient_jsonDecimal_lt hfinite) hy
  rw [Json.reread_of_scaled? hfinite hy]
  split
  · exact isFinite_neg hy'
  · exact hy'

/-! ### Numbers that are read back -/

theorem jsonDecimal_covers (hfinite : x.isFinite = true) (hzero : x.isZero = false) :
    x.Covers x.jsonDecimal.coefficient x.jsonDecimal.exponent := by
  have hcovers := shortest_covers jsonLayout.tie hfinite hzero
  rw [jsonDecimal]
  split
  · next h =>
    rw [Covers, powerOfTen_of_nonneg h.1] at hcovers
    have hone : powerOfTen (-1 + 1) = (1, 1) := rfl
    refine covers_succ_iff.mpr ?_
    rwa [Covers, hone, Nat.mul_one]
  · exact hcovers

/-- The number nearest to the decimal of a text is the one that was written. -/
theorem ofRatio_jsonDecimal (hfinite : x.isFinite = true) :
    ofRatio x.negative (x.jsonDecimal.coefficient * (powerOfTen x.jsonDecimal.exponent).1)
      (powerOfTen x.jsonDecimal.exponent).2 = x := by
  cases hzero : x.isZero with
  | false =>
    exact ofRatio_of_contains hfinite (powerOfTen_pos _).2 (jsonDecimal_covers hfinite hzero)
  | true =>
    have hcoefficient : x.jsonDecimal.coefficient = 0 := by
      rw [jsonDecimal, shortest, if_pos hzero]
      rfl
    have hnothing := eq_ofMagnitude_zero
      (isZero_ofRatio_zero x.negative (powerOfTen x.jsonDecimal.exponent).2)
    rw [negative_ofRatio] at hnothing
    rw [hcoefficient, Nat.zero_mul, ← hnothing]
    exact eq_ofMagnitude_zero hzero

/-- **Numbers with short decimals are read back.** -/
theorem reread_eq_self (hfinite : x.isFinite = true)
    (hcoefficient : x.jsonDecimal.coefficient < twoPow 53)
    (hexponent : x.jsonDecimal.exponent.natAbs ≤ 22) : x.reread = x := by
  have hnearest := ofRatio_jsonDecimal hfinite
  have hunsigned := isFinite_ofRatio_of_le false (powerOfTen_pos _).2 (powerOfTen_pos _).2
    (Nat.le_refl _) (hnearest.symm ▸ hfinite)
  have hscaled := scaled?_of_short hcoefficient hexponent hunsigned
  rw [Json.reread_of_scaled? hfinite hscaled]
  cases hsign : x.negative with
  | false => rwa [hsign] at hnearest
  | true =>
    rw [hsign] at hnearest
    rwa [if_pos rfl, neg_ofRatio]

/-- The average of three marks is read as another number, and a mark of 80 is not. -/
example : reread ⟨0x4058555555555555⟩ = ⟨0x4058555555555554⟩ ∧ reread (ofNat 80) = ofNat 80 := by
  decide +kernel

end Binary64

end Registrar
