import Registrar.Number.Layout
import Registrar.Proofs.Number.Nearest
import Registrar.Proofs.Number.Shortest

/-!
# The two texts of a number

A plain text and the text inside JSON documents are both made from a shortest decimal, and still
they may differ. Three things decide.

A whole number has no digits after its point, and then only one of the texts has a point. For what
is not whole the point is there in both, but very small sizes have an exponent in JSON documents;
sizes that are too large for digits after the point do not get that far. And of two shortest
decimals that are equally near to a number, the plain text takes the upper one and the text in JSON
documents the even one, so the texts differ if the lower one is even.

So whether a number is whole must be seen in its shortest decimal. Below a number's last binary
digit there is no room for a whole number that is not the number itself: one in its neighbourhood is
the number. So the search for the fewest digits passes the grid of whole numbers exactly if the
number is not whole.

## Main definitions

* `Binary64.IsHalfway` — a number is halfway between two neighbours on a grid of decimals.

## Main results

* `Binary64.shortest_up_ne_even_iff` — when the two shortest decimals of a number differ.
* `Binary64.whole_of_covers` — a whole number in the neighbourhood of a moderate number is it.
* `Binary64.toList_plainText_of_isWhole` — the plain text of a whole number.
* `Binary64.plainText_eq_jsonText_iff` — when the two texts of a number are the same.
-/

namespace Registrar

/-! ### Decimals and their texts -/

/-- Texts tell decimals. -/
theorem Decimal.text_inj {d d' : Decimal} : d.text = d'.text ↔ d = d' := by
  refine ⟨fun h => ?_, congrArg text⟩
  have hread := d.ofText?_text
  rw [h, ofText?_text] at hread
  exact (Option.some.inj hread).symm

theorem Scientific.toDecimal_inj {s s' : Scientific} {negative : Bool} (h : s.exponent < 0)
    (h' : s'.exponent < 0) : s.toDecimal negative = s'.toDecimal negative ↔ s = s' := by
  rw [toDecimal, toDecimal, if_neg (by omega), if_neg (by omega)]
  obtain ⟨coefficient, exponent⟩ := s
  obtain ⟨coefficient', exponent'⟩ := s'
  simp only [Decimal.mk.injEq, true_and, Scientific.mk.injEq] at h h' ⊢
  omega

namespace Binary64

/-! ### Whole numbers in a neighbourhood -/

theorem units_eq (x : Binary64) : x.units = x.significand * twoPow x.exponent := rfl

/-- A whole number in the neighbourhood of a number is the number, if that has digits for ones. -/
theorem whole_of_covers {x : Binary64} {n : Nat} (hexponent : x.exponent ≤ 1074)
    (h : x.neighbourhood.contains n 1 = true) : n * unitsPerOne = x.units := by
  obtain ⟨hlow, hhigh, -, -⟩ := bounds_of_contains rfl rfl h
  have hunit : unitsPerOne = twoPow (1074 - x.exponent) * twoPow x.exponent := by
    rw [← twoPow_add, Nat.sub_add_cancel hexponent, unitsPerOne]
  rw [Nat.one_mul, hunit, ← Nat.mul_assoc n] at hlow hhigh
  rw [units_eq, hunit, ← Nat.mul_assoc]
  have hpos := twoPow_pos x.exponent
  generalize n * twoPow (1074 - x.exponent) = k at hlow hhigh ⊢
  -- Both are multiples of the last digit, and less than one digit apart.
  obtain hlt | heq | hgt := Nat.lt_trichotomy k x.significand
  · have hmul := Nat.mul_le_mul_right (twoPow x.exponent) (Nat.succ_le_of_lt hlt)
    rw [Nat.succ_mul] at hmul
    omega
  · rw [heq]
  · have hmul := Nat.mul_le_mul_right (twoPow x.exponent) (Nat.succ_le_of_lt hgt)
    rw [Nat.succ_mul] at hmul
    omega

/-- A number that is not whole has digits below ones. -/
theorem exponent_lt_of_not_isWhole {x : Binary64} (hfinite : x.isFinite = true)
    (h : x.isWhole = false) : x.exponent < 1074 := by
  refine Nat.lt_of_not_le fun hle => ?_
  have hmod : x.units % unitsPerOne = 0 := by
    have hunits : x.units = x.significand * twoPow (x.exponent - 1074) * unitsPerOne := by
      rw [units_eq, unitsPerOne, Nat.mul_assoc, ← twoPow_add, Nat.sub_add_cancel hle]
    rw [hunits, Nat.mul_mod_left]
  rw [isWhole, hfinite, hmod] at h
  cases h

/-- A number below `2 ^ 53` has digits for ones. -/
theorem exponent_le_of_units_lt {x : Binary64} (h : x.units < twoPow 53 * unitsPerOne) :
    x.exponent ≤ 1074 := by
  refine Nat.le_of_not_lt fun hlt => ?_
  have hsignificand := le_significand (x := x) (by omega)
  have hle : twoPow 53 * unitsPerOne ≤ x.units := by
    calc twoPow 53 * unitsPerOne = twoPow 52 * twoPow 1075 := by
          rw [unitsPerOne, ← twoPow_add, ← twoPow_add]
      _ ≤ x.significand * twoPow x.exponent :=
        Nat.mul_le_mul hsignificand (twoPow_le_twoPow (by omega))
      _ = x.units := x.units_eq.symm
  omega

/-! ### The exponent of a shortest decimal -/

theorem le_exponent_strip (fuel : Nat) (s : Scientific) : s.exponent ≤ (s.strip fuel).exponent := by
  induction fuel generalizing s with
  | zero => exact Int.le_refl _
  | succ fuel ih =>
    rw [Scientific.strip]
    split
    · have hle := ih ⟨s.coefficient / 10, s.exponent + 1⟩
      dsimp only at hle
      omega
    · exact Int.le_refl _

/-- The search does not go past a grid with a point in the neighbourhood. -/
theorem le_exponent_searchGrids {tie : Tie} {n : Neighbourhood} {bound exponent : Int}
    (hhit : ∃ c, gridHit? tie n bound = some c) (fuel : Nat) (hle : bound ≤ exponent) :
    bound ≤ (searchGrids tie n fuel exponent).exponent := by
  induction fuel generalizing exponent with
  | zero => exact hle
  | succ fuel ih =>
    rw [searchGrids]
    split
    · exact hle
    · next hnone =>
      refine ih ?_
      have hne : bound ≠ exponent := by
        rintro rfl
        obtain ⟨c, hc⟩ := hhit
        rw [hnone] at hc
        cases hc
      omega

/-! ### Numbers between two shortest decimals -/

/-- A number lies halfway between two neighbours on a grid of decimals. -/
def IsHalfway (x : Binary64) (below : Nat) (exponent : Int) : Prop :=
  2 * (x.units * (powerOfTen exponent).2) =
    (2 * below + 1) * ((powerOfTen exponent).1 * unitsPerOne)

/-- On one grid the two rules part only if a number lies halfway and the decimal below is even. -/
theorem gridHit?_up (x : Binary64) (exponent : Int) :
    gridHit? .up x.neighbourhood exponent = gridHit? .even x.neighbourhood exponent ∨
      ∃ below, below % 2 = 0 ∧ x.IsHalfway below exponent ∧
        gridHit? .even x.neighbourhood exponent = some below ∧
        gridHit? .up x.neighbourhood exponent = some (below + 1) := by
  have hpos : 0 < (powerOfTen exponent).1 * twoPow 1076 :=
    Nat.mul_pos (powerOfTen_pos exponent).1 (twoPow_pos _)
  have hmiddle : x.neighbourhood.middle * ((powerOfTen exponent).2 *
      twoPow x.neighbourhood.scale) = 4 * (x.units * (powerOfTen exponent).2) := by
    rw [units_eq]
    simp only [neighbourhood]
    ring
  have hstep : (powerOfTen exponent).1 * twoPow 1076 =
      4 * ((powerOfTen exponent).1 * unitsPerOne) := by
    have hfour : twoPow 1076 = 4 * twoPow 1074 := by
      rw [twoPow_succ, twoPow_succ, Nat.mul_assoc, Nat.mul_comm]
    rw [hfour, unitsPerOne]
    ring
  simp only [gridHit?, hmiddle, hstep, IsHalfway]
  rw [hstep] at hpos
  generalize x.neighbourhood.contains _ _ = isBelow
  generalize x.neighbourhood.contains _ _ = isAbove
  generalize x.units * (powerOfTen exponent).2 = size at *
  generalize (powerOfTen exponent).1 * unitsPerOne = step at *
  cases isBelow <;> cases isAbove <;> try exact .inl rfl
  dsimp only
  split
  · exact .inl rfl
  · split
    · exact .inl rfl
    · next hdown hup =>
      have hdiv := Nat.div_add_mod (4 * size) (4 * step)
      have hlt := Nat.mod_lt (4 * size) hpos
      generalize 4 * size / (4 * step) = below at *
      rw [Nat.mul_comm] at hdiv
      have habove : (below + 1) * (4 * step) = below * (4 * step) + 4 * step := Nat.succ_mul _ _
      rw [habove] at hdown hup
      have hhalf : 2 * size = (2 * below + 1) * step := by
        have hleft : below * (4 * step) = 4 * (below * step) := Nat.mul_left_comm _ _ _
        have hright : (2 * below + 1) * step = 2 * (below * step) + step := by ring
        omega
      by_cases heven : below % 2 = 0
      · exact .inr ⟨below, heven, hhalf, by rw [if_pos heven], rfl⟩
      · exact .inl (by rw [if_neg heven])

/-- The searches part only there, too. -/
theorem searchGrids_up (x : Binary64) (fuel : Nat) (exponent : Int) :
    searchGrids .up x.neighbourhood fuel exponent =
        searchGrids .even x.neighbourhood fuel exponent ∨
      ∃ below grid, below % 2 = 0 ∧ x.IsHalfway below grid ∧
        searchGrids .even x.neighbourhood fuel exponent = ⟨below, grid⟩ ∧
        searchGrids .up x.neighbourhood fuel exponent = ⟨below + 1, grid⟩ := by
  induction fuel generalizing exponent with
  | zero => exact .inl rfl
  | succ fuel ih =>
    rw [searchGrids, searchGrids]
    obtain heq | ⟨below, heven, hhalf, hdown, hup⟩ := x.gridHit?_up exponent
    · rw [heq]
      cases gridHit? .even x.neighbourhood exponent with
      | none => exact ih _
      | some c => exact .inl rfl
    · rw [hdown, hup]
      exact .inr ⟨below, exponent, heven, hhalf, rfl, rfl⟩

/-- **The two rules make different decimals of a number exactly if it lies halfway between two
shortest decimals of which the lower one is even.** -/
theorem shortest_up_ne_even_iff {x : Binary64} :
    x.shortest .up ≠ x.shortest .even ↔ ∃ below exponent, below % 2 = 0 ∧
      x.IsHalfway below exponent ∧ x.shortest .even = Scientific.strip 24 ⟨below, exponent⟩ ∧
      x.shortest .up = ⟨below + 1, exponent⟩ := by
  constructor
  · intro hne
    rw [shortest, shortest] at hne ⊢
    split at hne
    · exact absurd rfl hne
    · next hzero =>
      obtain heq | ⟨below, exponent, heven, hhalf, hdown, hup⟩ := x.searchGrids_up 24
        (((x.units.log2 : Int) - 1074) * 30103 / 100000 + 1)
      · exact absurd (congrArg (Scientific.strip 24) heq) hne
      · have hodd : Scientific.strip 24 ⟨below + 1, exponent⟩ = ⟨below + 1, exponent⟩ := by
          rw [Scientific.strip, if_neg (by dsimp only; omega)]
        rw [if_neg hzero, if_neg hzero]
        exact ⟨below, exponent, heven, hhalf, congrArg (Scientific.strip 24) hdown,
          (congrArg (Scientific.strip 24) hup).trans hodd⟩
  · rintro ⟨below, exponent, -, -, hdown, hup⟩ heq
    rw [hup, hdown, Scientific.strip] at heq
    split at heq
    · have hle := le_exponent_strip 23 ⟨below / 10, exponent + 1⟩
      rw [← heq] at hle
      dsimp only at hle
      omega
    · rw [Scientific.mk.injEq] at heq
      omega

/-! ### Whole numbers -/

theorem unitsPerOne_dvd {x : Binary64} (hwhole : x.isWhole = true) : unitsPerOne ∣ x.units := by
  rw [isWhole, Bool.and_eq_true, beq_iff_eq] at hwhole
  exact Nat.dvd_of_mod_eq_zero hwhole.2

/-- A whole number in the neighbourhood stops the search at ones. -/
theorem exists_gridHit?_ones {x : Binary64} (tie : Tie) (hwhole : x.isWhole = true)
    (hzero : x.isZero = false) : ∃ c, gridHit? tie x.neighbourhood 0 = some c := by
  refine exists_gridHit?_of_contains ?_
  obtain ⟨n, hn⟩ := unitsPerOne_dvd hwhole
  have hones : powerOfTen 0 = (1, 1) := rfl
  have hmiddle : x.neighbourhood.middle * twoPow x.exponent = n * twoPow 1076 := by
    have hfour : twoPow 1076 = 4 * unitsPerOne := by
      rw [twoPow_succ, twoPow_succ, unitsPerOne]
      omega
    rw [neighbourhood, Nat.mul_assoc, ← units_eq, hn, hfour, Nat.mul_left_comm n,
      Nat.mul_comm n unitsPerOne]
  have hscale : x.neighbourhood.scale = x.exponent := rfl
  rw [hones, Nat.one_mul, Nat.one_mul, hscale, hmiddle, Nat.mul_div_cancel _ (twoPow_pos _),
    Nat.mul_one, Neighbourhood.contains_iff, Nat.one_mul, hscale, ← hmiddle]
  obtain ⟨hlow, hhigh⟩ := middle_bounds hzero
  have hlow' := Nat.mul_lt_mul_of_pos_right hlow (twoPow_pos x.exponent)
  have hhigh' := Nat.mul_lt_mul_of_pos_right hhigh (twoPow_pos x.exponent)
  split
  · exact ⟨Nat.le_of_lt hlow', Nat.le_of_lt hhigh'⟩
  · exact ⟨hlow', hhigh'⟩

/-- The shortest decimal of a whole number has no digits after its point. -/
theorem exponent_nonneg_of_isWhole {x : Binary64} (tie : Tie) (hwhole : x.isWhole = true) :
    0 ≤ (x.shortest tie).exponent := by
  rw [shortest]
  split
  · exact Int.le_refl _
  · next hzero =>
    have hzero' : x.isZero = false := by simpa using hzero
    have hpos : 0 < x.units := Nat.mul_pos (significand_pos hzero') (twoPow_pos _)
    have hlog : 1074 ≤ x.units.log2 := le_log2 (Nat.le_of_dvd hpos (unitsPerOne_dvd hwhole))
    refine Int.le_trans ?_ (le_exponent_strip 24 _)
    exact le_exponent_searchGrids (exists_gridHit?_ones tie hwhole hzero') 24 (by omega)

theorem isZero_eq_false_of_not_isWhole {x : Binary64} (hfinite : x.isFinite = true)
    (h : x.isWhole = false) : x.isZero = false := by
  rw [← Bool.not_eq_true, isZero, beq_iff_eq, ← units_eq_zero_iff]
  intro hunits
  rw [isWhole, hfinite, hunits, Nat.zero_mod] at h
  cases h

/-- The shortest decimal of a number that is not whole has digits after its point. -/
theorem exponent_neg_of_not_isWhole {x : Binary64} (tie : Tie) (hfinite : x.isFinite = true)
    (h : x.isWhole = false) : (x.shortest tie).exponent < 0 := by
  refine Int.not_le.mp fun hnonneg => ?_
  have hexponent := exponent_lt_of_not_isWhole hfinite h
  have hcovers := shortest_covers tie hfinite (isZero_eq_false_of_not_isWhole hfinite h)
  rw [Covers, powerOfTen_of_nonneg hnonneg] at hcovers
  have hunits := whole_of_covers (Nat.le_of_lt hexponent) hcovers
  rw [isWhole, hfinite, ← hunits, Nat.mul_mod_left] at h
  cases h

/-! ### Texts of whole numbers -/

theorem plainText_eq {x : Binary64} (hfinite : x.isFinite = true) :
    x.plainText = x.plainDecimal.text := by
  rw [plainText, isNaN_eq_false hfinite, hfinite, if_neg Bool.false_ne_true, if_pos rfl]

theorem isFinite_of_isWhole {x : Binary64} (hwhole : x.isWhole = true) : x.isFinite = true := by
  rw [isWhole, Bool.and_eq_true] at hwhole
  exact hwhole.1

/-- The size of a whole number as its shortest decimal has it. -/
def wholeSize (x : Binary64) : Nat :=
  (x.shortest .up).coefficient * tenPow (x.shortest .up).exponent.toNat

/-- The plain text of a whole number is a sign and digits. -/
theorem toList_plainText_of_isWhole {x : Binary64} (hwhole : x.isWhole = true) :
    x.plainText.toList = Json.signText x.negative ++ Nat.toDigits 10 x.wholeSize := by
  rw [plainText_eq (isFinite_of_isWhole hwhole), plainDecimal, Scientific.toDecimal,
    if_pos (exponent_nonneg_of_isWhole .up hwhole), Json.toList_text, Json.unsignedText_of_whole,
    wholeSize]

/-- The shortest decimal of a whole number below `2 ^ 53` is the number. -/
theorem wholeSize_mul {x : Binary64} (hwhole : x.isWhole = true)
    (hlt : x.units < twoPow 53 * unitsPerOne) : x.wholeSize * unitsPerOne = x.units := by
  cases hzero : x.isZero with
  | true =>
    have hunits : x.units = 0 := units_eq_zero_iff.mpr (by simpa [isZero] using hzero)
    rw [wholeSize, shortest, if_pos hzero, hunits, Nat.zero_mul, Nat.zero_mul]
  | false =>
    have hcovers := shortest_covers .up (isFinite_of_isWhole hwhole) hzero
    rw [Covers, powerOfTen_of_nonneg (exponent_nonneg_of_isWhole .up hwhole)] at hcovers
    exact whole_of_covers (exponent_le_of_units_lt hlt) hcovers

theorem natAbs_truncate (x : Binary64) : x.truncate.natAbs = x.units / unitsPerOne := by
  rw [truncate]
  split
  · rw [Int.natAbs_neg, ← Int.natCast_ediv, Int.natAbs_natCast]
  · rw [← Int.natCast_ediv, Int.natAbs_natCast]

theorem units_lt_of_natAbs_truncate {x : Binary64} {bound : Nat}
    (h : x.truncate.natAbs < bound) : x.units < bound * unitsPerOne := by
  rwa [natAbs_truncate, Nat.div_lt_iff_lt_mul unitsPerOne_pos] at h

/-- The sign of a number is that of its integer part, but for a zero. -/
theorem truncate_neg_iff {x : Binary64} (hwhole : x.isWhole = true) :
    x.truncate < 0 ↔ x.negative = true ∧ x.isZero = false := by
  have hzero : x.isZero = true ↔ x.units / unitsPerOne = 0 := by
    rw [isZero, beq_iff_eq, ← units_eq_zero_iff,
      Nat.div_eq_zero_iff_lt unitsPerOne_pos]
    refine ⟨fun hunits => hunits ▸ unitsPerOne_pos, fun hlt => ?_⟩
    exact Nat.eq_zero_of_dvd_of_lt (unitsPerOne_dvd hwhole) hlt
  rw [← Bool.not_eq_true x.isZero, hzero, truncate, ← Int.natCast_ediv]
  generalize x.units / unitsPerOne = size
  cases x.negative with
  | true =>
    rw [if_pos rfl, eq_self_iff_true, true_and]
    omega
  | false =>
    rw [if_neg Bool.false_ne_true, iff_false_right (by simp)]
    omega

theorem signText_inj {negative negative' : Bool} :
    Json.signText negative = Json.signText negative' ↔ negative = negative' := by
  cases negative <;> cases negative' <;> decide

/-- The plain text of a whole number below `2 ^ 53` is the text of the whole number, but for the
sign of zero. -/
theorem plainText_eq_toString_iff {x : Binary64} (hwhole : x.isWhole = true)
    (hlt : x.truncate.natAbs < twoPow 53) :
    x.plainText = toString x.truncate ↔ ¬(x.isZero = true ∧ x.negative = true) := by
  have hsize : x.truncate.natAbs = x.wholeSize := by
    rw [natAbs_truncate, ← wholeSize_mul hwhole (units_lt_of_natAbs_truncate hlt),
      Nat.mul_div_cancel _ unitsPerOne_pos]
  rw [← String.toList_inj, toList_plainText_of_isWhole hwhole, Json.toList_toString, hsize,
    List.append_left_inj, signText_inj, ← Bool.coe_iff_coe, decide_eq_true_iff,
    truncate_neg_iff hwhole]
  cases x.negative <;> cases x.isZero <;> decide

/-! ### Characters of the texts -/

/-- The characters in plain texts. -/
def isNumberChar (c : Char) : Bool :=
  isDigit c || ['-', '.', 'N', 'a', 'i', 'n', 'f'].contains c

theorem isNumberChar_of_mem_plainText {x : Binary64} {c : Char} (h : c ∈ x.plainText.toList) :
    isNumberChar c = true := by
  have hword {word : String} (hall : word.toList.all isNumberChar = true)
      (hc : c ∈ word.toList) : isNumberChar c = true := List.all_eq_true.mp hall c hc
  have hdigit {d : Decimal} (hc : c ∈ d.paddedDigits) : isNumberChar c = true := by
    rw [isNumberChar, Json.isDigit_of_mem_paddedDigits hc, Bool.true_or]
  rw [plainText] at h
  split at h
  · exact hword (by decide) h
  split at h
  · rw [Json.toList_text, List.mem_append] at h
    obtain hsign | hc := h
    · rw [Json.signText] at hsign
      split at hsign
      · rw [List.mem_singleton.mp hsign]
        rfl
      · cases hsign
    · rw [Decimal.unsignedText] at hc
      split at hc
      · exact hdigit hc
      · obtain hc | hc := List.mem_append.mp hc
        · exact hdigit (List.mem_of_mem_take hc)
        · obtain rfl | hc := List.mem_cons.mp hc
          · rfl
          · exact hdigit (List.mem_of_mem_drop hc)
  · cases hsign : x.negative with
    | true =>
      rw [hsign] at h
      exact hword (by decide) h
    | false =>
      rw [hsign] at h
      exact hword (by decide) h

/-- The text of a number is a number, or one of three words. -/
theorem plainText_cases (x : Binary64) :
    (∃ d, Decimal.ofText? x.plainText = some d) ∨ x.plainText ∈ ["NaN", "inf", "-inf"] := by
  cases hfinite : x.isFinite with
  | true => exact .inl ⟨_, ofText?_plainText hfinite⟩
  | false =>
    refine .inr ?_
    rw [plainText, hfinite, if_neg Bool.false_ne_true]
    split
    · decide
    · cases x.negative <;> decide

/-- The text of a number is no text that is neither a number nor one of the words. -/
theorem plainText_ne {text : String} (hnumber : Decimal.ofText? text = none)
    (hword : text ∉ ["NaN", "inf", "-inf"]) (x : Binary64) : x.plainText ≠ text := by
  rintro rfl
  obtain ⟨d, hd⟩ | hmem := x.plainText_cases
  · rw [hnumber] at hd
    cases hd
  · exact hword hmem

/-- The digits in a JSON text stand where they have their values, with no exponent after them. -/
def IsPositional (x : Binary64) : Prop :=
  let s := x.shortest jsonLayout.tie
  let point : Int := (Nat.toDigits 10 s.coefficient).length + s.exponent
  s.coefficient = 0 ∨ (-(jsonLayout.smallest : Int) < point ∧ point ≤ jsonLayout.largest)

theorem jsonText_of_isPositional {x : Binary64} (h : x.IsPositional) :
    let d := (x.shortest .even).toDecimal x.negative
    x.jsonText = if d.scale = 0 then d.text ++ ".0" else d.text := by
  rw [jsonText]
  exact if_pos h

theorem mem_jsonText_of_not_isPositional {x : Binary64} (h : ¬x.IsPositional) :
    'e' ∈ x.jsonText.toList := by
  have htext : x.jsonText = _ := if_neg h
  rw [htext, Json.toList_signed]
  simp

/-- A JSON text has a point or an exponent. -/
theorem mem_jsonText (x : Binary64) : '.' ∈ x.jsonText.toList ∨ 'e' ∈ x.jsonText.toList := by
  by_cases hpositional : x.IsPositional
  · left
    rw [jsonText_of_isPositional hpositional]
    split
    · simp
    · next hscale =>
      rw [Json.toList_text, Decimal.unsignedText, if_neg hscale]
      simp
  · exact .inr (mem_jsonText_of_not_isPositional hpositional)

/-- The plain text of a whole number is not the text of any number in a JSON document. -/
theorem plainText_ne_jsonText_of_isWhole {x : Binary64} (hwhole : x.isWhole = true)
    (y : Binary64) : x.plainText ≠ y.jsonText := by
  intro heq
  have hplain {c : Char} (hc : c ∈ x.plainText.toList) : c = '-' ∨ isDigit c = true := by
    rw [toList_plainText_of_isWhole hwhole, List.mem_append, Json.signText] at hc
    obtain hc | hc := hc
    · split at hc
      · exact .inl (List.mem_singleton.mp hc)
      · cases hc
    · exact .inr (isDigit_of_mem_toDigits hc)
  obtain hpoint | hmark := y.mem_jsonText
  · rw [← heq] at hpoint
    exact absurd (hplain hpoint) (by decide)
  · rw [← heq] at hmark
    exact absurd (hplain hmark) (by decide)

/-! ### Small sizes

Digits stand where they have their values from `0.00001` on. The nearest number to this bound has it
as its shortest decimal, and the shortest decimals of the numbers below and above it are below and
above the bound. -/

/-- The number nearest to `0.00001`. -/
def leastPositional : Binary64 := ⟨0x3ee4f8b588e368f1⟩

/-- The number before it. -/
def beforePositional : Binary64 := ⟨0x3ee4f8b588e368f0⟩

/-- The number after it. -/
def afterPositional : Binary64 := ⟨0x3ee4f8b588e368f2⟩

/-- The shortest decimal depends on the size only. -/
theorem exponent_le_exponent {x y : Binary64} (h : x.magnitude ≤ y.magnitude) :
    x.exponent ≤ y.exponent :=
  Nat.sub_le_sub_right (Nat.div_le_div_right h) 1

variable {x : Binary64} {coefficient places : Nat}

/-- A decimal with digits after its point is within half a last digit of the number. -/
theorem bounds_of_covers (h : x.Covers coefficient (-(places : Int))) (hplaces : 0 < places) :
    2 * (tenPow places * x.units) ≤
        2 * (coefficient * unitsPerOne) + tenPow places * twoPow x.exponent ∧
      2 * (coefficient * unitsPerOne) ≤
        2 * (tenPow places * x.units) + tenPow places * twoPow x.exponent := by
  rw [Covers, powerOfTen_of_neg (by omega), Int.neg_neg, Int.toNat_natCast, Nat.mul_one] at h
  obtain ⟨hlow, hhigh, -, -⟩ := bounds_of_contains rfl rfl h
  dsimp only at hlow hhigh
  rw [units_eq, Nat.mul_left_comm (tenPow places)]
  omega

/-- Below the bound, so is the decimal. -/
theorem lt_of_magnitude_lt (h : x.Covers coefficient (-(places : Int))) (hplaces : 0 < places)
    (hlt : x.magnitude < leastPositional.magnitude) :
    coefficient * tenPow 5 < tenPow places ∧ x.units * tenPow 5 < unitsPerOne := by
  have hle : x.magnitude ≤ beforePositional.magnitude := Nat.le_of_lt_succ hlt
  have hunits := units_le_units_iff.mpr hle
  have hdigit := twoPow_le_twoPow (exponent_le_exponent hle)
  have hbound : (2 * beforePositional.units + twoPow beforePositional.exponent) * tenPow 5 <
      2 * unitsPerOne := by
    decide +kernel
  have hsize : (2 * x.units + twoPow x.exponent) * tenPow 5 < 2 * unitsPerOne :=
    Nat.lt_of_le_of_lt (Nat.mul_le_mul_right _ (by omega)) hbound
  obtain ⟨-, hhigh⟩ := bounds_of_covers h hplaces
  have hpos := tenPow_pos places
  generalize twoPow x.exponent = digit at hsize hhigh
  generalize unitsPerOne = unit at hsize hhigh ⊢
  generalize tenPow places = denominator at hhigh hpos ⊢
  generalize tenPow 5 = power at hsize ⊢
  constructor
  · refine Nat.lt_of_mul_lt_mul_right (a := 2 * unit) ?_
    calc coefficient * power * (2 * unit) = 2 * (coefficient * unit) * power := by ring
      _ ≤ (2 * (denominator * x.units) + denominator * digit) * power :=
        Nat.mul_le_mul_right _ hhigh
      _ = denominator * ((2 * x.units + digit) * power) := by ring
      _ < denominator * (2 * unit) := Nat.mul_lt_mul_of_pos_left hsize hpos
  · have hsplit : (2 * x.units + digit) * power = 2 * (x.units * power) + digit * power := by ring
    omega

/-- Above the bound, so is the decimal. -/
theorem le_of_lt_magnitude (h : x.Covers coefficient (-(places : Int))) (hplaces : 0 < places)
    (hlt : leastPositional.magnitude < x.magnitude) :
    tenPow places ≤ coefficient * tenPow 5 ∧ unitsPerOne ≤ x.units * tenPow 5 := by
  have hunits : afterPositional.units ≤ x.units :=
    units_le_units_iff.mpr (Nat.succ_le_of_lt hlt)
  have hexponent : 0 < x.exponent :=
    Nat.lt_of_lt_of_le (by decide) (exponent_le_exponent (Nat.le_of_lt hlt))
  have hdigit : twoPow 52 * twoPow x.exponent ≤ x.units :=
    Nat.mul_le_mul_right _ (le_significand hexponent)
  have hbound : 2 * unitsPerOne * twoPow 52 ≤
      (2 * twoPow 52 - 1) * afterPositional.units * tenPow 5 := by
    decide +kernel
  have hsize : 2 * unitsPerOne * twoPow 52 ≤ (2 * twoPow 52 - 1) * x.units * tenPow 5 :=
    Nat.le_trans hbound (Nat.mul_le_mul_right _ (Nat.mul_le_mul_left _ hunits))
  obtain ⟨hlow, -⟩ := bounds_of_covers h hplaces
  obtain ⟨less, hless⟩ := Nat.exists_eq_succ_of_ne_zero (n := 2 * twoPow 52) (by decide)
  rw [hless, Nat.succ_sub_one] at hsize
  have hpos := twoPow_pos 52
  have hunit := unitsPerOne_pos
  generalize twoPow x.exponent = digit at hdigit hlow
  generalize twoPow 52 = parts at hdigit hsize hless hpos
  generalize unitsPerOne = unit at hsize hlow hunit ⊢
  generalize tenPow places = denominator at hlow ⊢
  generalize tenPow 5 = power at hsize ⊢
  have hcancel : 0 < 2 * unit * parts := Nat.mul_pos (Nat.mul_pos two_pos hunit) hpos
  constructor
  · have hlow' : denominator * (less * x.units) ≤ 2 * (coefficient * unit) * parts := by
      have hscaled := Nat.mul_le_mul_right parts hlow
      have hpart := Nat.mul_le_mul_left denominator hdigit
      have hsplit : denominator * (less * x.units) + denominator * x.units =
          2 * (denominator * x.units) * parts := by
        rw [← Nat.mul_add, ← Nat.succ_mul, ← hless]
        ring
      have hjoin : (2 * (coefficient * unit) + denominator * digit) * parts =
          2 * (coefficient * unit) * parts + denominator * (parts * digit) := by
        ring
      omega
    refine Nat.le_of_mul_le_mul_right ?_ hcancel
    calc denominator * (2 * unit * parts) ≤ denominator * (less * x.units * power) :=
          Nat.mul_le_mul_left _ hsize
      _ = denominator * (less * x.units) * power := by ring
      _ ≤ 2 * (coefficient * unit) * parts * power := Nat.mul_le_mul_right _ hlow'
      _ = coefficient * power * (2 * unit * parts) := by ring
  · refine Nat.le_of_mul_le_mul_right ?_ (Nat.mul_pos two_pos hpos)
    calc unit * (2 * parts) = 2 * unit * parts := by ring
      _ ≤ less * x.units * power := hsize
      _ ≤ less.succ * x.units * power :=
        Nat.mul_le_mul_right _ (Nat.mul_le_mul_right _ (Nat.le_succ less))
      _ = x.units * power * (2 * parts) := by rw [hless]; ring

/-- **The shortest decimal is not below the bound exactly if the number is not.** -/
theorem le_shortest_iff {s : Scientific} (hshortest : x.shortest .even = s)
    (hcovers : x.Covers s.coefficient s.exponent) (hneg : s.exponent < 0) :
    tenPow (-s.exponent).toNat ≤ s.coefficient * tenPow 5 ↔
      unitsPerOne ≤ x.units * tenPow 5 := by
  have hplaces : s.exponent = -((-s.exponent).toNat : Int) := by omega
  have hpos : 0 < (-s.exponent).toNat := by omega
  obtain hlt | heq | hgt := Nat.lt_trichotomy x.magnitude leastPositional.magnitude
  · rw [hplaces] at hcovers
    obtain ⟨hdecimal, hnumber⟩ := lt_of_magnitude_lt hcovers hpos hlt
    exact iff_of_false (Nat.not_le_of_lt hdecimal) (Nat.not_le_of_lt hnumber)
  · have hleast : leastPositional.shortest .even = ⟨1, -5⟩ := by decide +kernel
    obtain rfl : s = ⟨1, -5⟩ := by rw [← hshortest, shortest_congr .even heq, hleast]
    have hunits : x.units = leastPositional.units :=
      Nat.le_antisymm (units_le_units_iff.mpr heq.le) (units_le_units_iff.mpr heq.ge)
    rw [hunits]
    exact iff_of_true (by decide) (by decide +kernel)
  · rw [hplaces] at hcovers
    obtain ⟨hdecimal, hnumber⟩ := le_of_lt_magnitude hcovers hpos hgt
    exact iff_of_true hdecimal hnumber

/-! ### Texts of numbers that are not whole -/

/-- A number that is not whole has at most 16 digits before its point. -/
theorem coefficient_lt_of_covers (h : x.Covers coefficient (-(places : Int)))
    (hplaces : 0 < places) (hexponent : x.exponent < 1074) :
    coefficient < tenPow (16 + places) := by
  have hunits : 2 * x.units + twoPow x.exponent ≤ twoPow 53 * unitsPerOne := by
    have hdigit : 2 * twoPow x.exponent ≤ unitsPerOne := by
      rw [Nat.mul_comm, ← twoPow_succ]
      exact twoPow_le_twoPow hexponent
    calc 2 * x.units + twoPow x.exponent = (2 * x.significand + 1) * twoPow x.exponent := by
          rw [units_eq]
          ring
      _ ≤ twoPow 53 * 2 * twoPow x.exponent :=
        Nat.mul_le_mul_right _ (by have := x.significand_lt; omega)
      _ = twoPow 53 * (2 * twoPow x.exponent) := Nat.mul_assoc _ _ _
      _ ≤ twoPow 53 * unitsPerOne := Nat.mul_le_mul_left _ hdigit
  obtain ⟨-, hhigh⟩ := bounds_of_covers h hplaces
  rw [tenPow_add]
  have hpower : twoPow 53 < tenPow 16 * 2 := by decide
  have hpos := tenPow_pos places
  have hunit := unitsPerOne_pos
  generalize unitsPerOne = unit at hunits hhigh hunit
  generalize twoPow x.exponent = digit at hunits hhigh
  generalize tenPow places = denominator at hhigh hpos ⊢
  refine Nat.lt_of_mul_lt_mul_right (a := 2 * unit) ?_
  calc coefficient * (2 * unit) = 2 * (coefficient * unit) := Nat.mul_left_comm _ _ _
    _ ≤ 2 * (denominator * x.units) + denominator * digit := hhigh
    _ = denominator * (2 * x.units + digit) := by ring
    _ ≤ denominator * (twoPow 53 * unit) := Nat.mul_le_mul_left _ hunits
    _ < denominator * (tenPow 16 * 2 * unit) :=
      Nat.mul_lt_mul_of_pos_left (Nat.mul_lt_mul_of_pos_right hpower hunit) hpos
    _ = tenPow 16 * denominator * (2 * unit) := by ring

/-- Where the digits of a number that is not whole stand is told by its size. -/
theorem isPositional_iff (hfinite : x.isFinite = true) (hwhole : x.isWhole = false) :
    x.IsPositional ↔ unitsPerOne ≤ x.units * tenPow 5 := by
  have hexponent := exponent_lt_of_not_isWhole hfinite hwhole
  have hneg := exponent_neg_of_not_isWhole .even hfinite hwhole
  have hzero := isZero_eq_false_of_not_isWhole hfinite hwhole
  have hcovers := shortest_covers .even hfinite hzero
  rw [← le_shortest_iff rfl hcovers hneg]
  have hcoefficient := pos_of_covers hzero hcovers
  have hplaces : (x.shortest .even).exponent = -((-(x.shortest .even).exponent).toNat : Int) := by
    omega
  rw [hplaces] at hcovers
  have hlarge := coefficient_lt_of_covers hcovers (by omega) hexponent
  have hdigits := tenPow_length_le hcoefficient
  have hdigits' := lt_tenPow_length (x.shortest .even).coefficient
  have hlength : 0 < (Nat.toDigits 10 (x.shortest .even).coefficient).length :=
    Nat.length_toDigits_pos
  have hsmall := lt_of_tenPow_lt (Nat.lt_of_le_of_lt hdigits hlarge)
  constructor
  · rintro (hnone | ⟨hpoint, -⟩)
    · exact absurd hnone hcoefficient.ne'
    · refine Nat.le_trans (tenPow_le_tenPow ?_) (Nat.le_trans (tenPow_add _ 5).le
        (Nat.mul_le_mul_right _ hdigits))
      dsimp only [jsonLayout] at hpoint
      omega
  · intro hle
    have hlt : tenPow (-(x.shortest .even).exponent).toNat <
        tenPow ((Nat.toDigits 10 (x.shortest .even).coefficient).length + 5) := by
      rw [tenPow_add]
      exact Nat.lt_of_le_of_lt hle (Nat.mul_lt_mul_of_pos_right hdigits' (tenPow_pos 5))
    have hpoint := lt_of_tenPow_lt hlt
    refine .inr ⟨?_, ?_⟩
    · dsimp only [jsonLayout]
      omega
    · dsimp only [jsonLayout]
      omega

/-- **When the two texts of a number that is not whole are the same.** It must not be too small, and
it must not lie halfway between two shortest decimals of which the lower one is even. -/
theorem plainText_eq_jsonText_iff (hfinite : x.isFinite = true) (hwhole : x.isWhole = false) :
    x.plainText = x.jsonText ↔
      unitsPerOne ≤ x.units * tenPow 5 ∧ x.shortest .up = x.shortest .even := by
  have hup := exponent_neg_of_not_isWhole .up hfinite hwhole
  have heven := exponent_neg_of_not_isWhole .even hfinite hwhole
  rw [← isPositional_iff hfinite hwhole]
  by_cases hpositional : x.IsPositional
  · have htext : x.jsonText = ((x.shortest .even).toDecimal x.negative).text := by
      rw [jsonText_of_isPositional hpositional]
      refine if_neg ?_
      rw [Scientific.toDecimal, if_neg (by omega)]
      dsimp only
      omega
    rw [plainText_eq hfinite, htext, Decimal.text_inj, plainDecimal,
      Scientific.toDecimal_inj hup heven, and_iff_right hpositional]
  · refine iff_of_false (fun heq => ?_) fun h => hpositional h.1
    have hmark := mem_jsonText_of_not_isPositional hpositional
    rw [← heq] at hmark
    exact absurd (isNumberChar_of_mem_plainText hmark) (by decide)

end Binary64

end Registrar
