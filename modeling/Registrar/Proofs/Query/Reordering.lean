import Registrar.Proofs.Number.Nearest
import Registrar.Proofs.Query.Arithmetic

/-!
# Sums of reordered records

A sum should not depend on the order in which the records come. But it is added up in a decimal of
96 bits, and the partial sums are those of one order. A partial sum that does not fit loses digits,
or is an overflow, and what is lost in one order is kept in another: `8.005` takes up so much of the
decimal that `10 ^ (-28)` is rounded away, while `4.005`, which is left after `4` has been taken
off, is small enough to keep it. A sum at a midpoint of two reported numbers goes up or down with
that.

There are two cases in which no order is special. A number that cannot be converted makes the sum
fail, wherever it stands. And if the sizes of all decimals fit together, every partial sum of every
order is exact. All orders then come to the same value, though not to the same decimal, since terms
that cancel leave a zero, and with it the scale of the other terms is forgotten. So the last step,
which reports the decimal as a number, has to forget the scale as well. It does so for sums of at
most `10 ^ 13`.

## Main definitions

* `SameOutcome` — two computations that both fail, or have equal values.
* `IsSettled` — the two cases.

## Main results

* `sum_of_perm` — a settled sum does not depend on the order of the records.
* `exists_perm_not_sameOutcome` — a sum that does.
-/

namespace Registrar

variable {α : Type} [HasFields α] {key : FieldKey} {records reordered : List α}

/-! ### Outcomes -/

/-- Two computations end in the same way: their values are equal, or both fail. -/
inductive SameOutcome : Except Defect FieldValue → Except Defect FieldValue → Prop where
  | values {a b : FieldValue} (h : a.eq b = true) : SameOutcome (.ok a) (.ok b)
  | defects (d e : Defect) : SameOutcome (.error d) (.error e)

instance : ∀ x y, Decidable (SameOutcome x y)
  | .ok a, .ok b => decidable_of_iff (a.eq b = true) ⟨.values, fun | .values h => h⟩
  | .error d, .error e => isTrue (.defects d e)
  | .ok _, .error _ => isFalse nofun
  | .error _, .ok _ => isFalse nofun

/-! ### Numbers that cannot be converted -/

/-- A step converts the number of its record. -/
theorem reads_of_addMeasure {record : α} {total next : Decimal96}
    (h : addMeasure key total record = .ok next) : ∃ read, ReadsDecimal key record read := by
  obtain ⟨value, hvalue, h⟩ := bind_eq_ok_iff.mp h
  obtain ⟨read, hread, -⟩ := bind_eq_ok_iff.mp h
  exact ⟨read, value, measureOf_eq_ok_iff.mp hvalue, hread⟩

/-- Where a number cannot be converted, there is no sum. -/
theorem exists_decimalSum_eq_error {record : α} (hmem : record ∈ records)
    (hrefused : ∀ read, ¬ReadsDecimal key record read) :
    ∃ defect, decimalSum key records = .error defect := by
  cases hsum : decimalSum key records with
  | error defect => exact ⟨defect, rfl⟩
  | ok total =>
    obtain ⟨_, _, hstep⟩ := exists_step_of_foldlM_eq_ok hsum hmem
    obtain ⟨read, hread⟩ := reads_of_addMeasure hstep
    exact absurd hread (hrefused read)

/-! ### Settled sums -/

/-- No order of the records is special for their sum. -/
inductive IsSettled (key : FieldKey) (records : List α) : Prop where
  /-- A number cannot be converted. -/
  | refused {record : α} (hmem : record ∈ records)
      (hrefused : ∀ read, ¬ReadsDecimal key record read)
  /-- The sizes of all decimals fit together, and the sum is at most `10 ^ 13`. -/
  | fits {reads : List Decimal96} {scale : Nat}
      (hreads : List.Forall₂ (ReadsDecimal key) records reads)
      (hscale : ∀ read ∈ reads, read.scale ≤ scale)
      (hfit : totalSize (reads.map Decimal96.toDecimal) * tenPow scale < coefficientBound)
      (hsum : |totalValue (reads.map Decimal96.toDecimal)| ≤ tenPow 13)

/-- All orders of decimals that fit come to the same value. -/
theorem exists_decimalSum_of_perm (hperm : reordered.Perm records) {reads : List Decimal96}
    {scale : Nat} (hreads : List.Forall₂ (ReadsDecimal key) records reads)
    (hscale : ∀ read ∈ reads, read.scale ≤ scale)
    (hfit : totalSize (reads.map Decimal96.toDecimal) * tenPow scale < coefficientBound) :
    ∃ total, decimalSum key reordered = .ok total ∧
      total.value = totalValue (reads.map Decimal96.toDecimal) := by
  obtain ⟨others, hothers, hsame⟩ := List.perm_comp_forall₂ hperm hreads
  have hdecimals := hsame.map Decimal96.toDecimal
  have hsize : totalSize (others.map Decimal96.toDecimal) =
      totalSize (reads.map Decimal96.toDecimal) := (hdecimals.map _).sum_eq
  have hvalue : totalValue (others.map Decimal96.toDecimal) =
      totalValue (reads.map Decimal96.toDecimal) := (hdecimals.map _).sum_eq
  obtain ⟨total, htotal, hexact, -⟩ := exists_decimalSum_of_reads hothers
    (fun read hread => hscale read (hsame.subset hread)) (hsize ▸ hfit)
  exact ⟨total, htotal, hexact.trans hvalue⟩

variable {rule : ApplyRule}

theorem evaluate_eq_ok (hrule : rule.aggregate = .sum) {total : Decimal96}
    (h : decimalSum rule.key records = .ok total) :
    rule.evaluate records = .ok (.number (total.roundPlaces reportedPlaces).toBinary64) := by
  simp only [ApplyRule.evaluate, hrule, sumDecimal, h]
  rfl

theorem evaluate_eq_error (hrule : rule.aggregate = .sum) {defect : Defect}
    (h : decimalSum rule.key records = .error defect) : rule.evaluate records = .error defect := by
  simp only [ApplyRule.evaluate, hrule, sumDecimal, h]
  rfl

/-- **A settled sum does not depend on the order of the records**: in every order it is the same
number, or fails. -/
theorem sum_of_perm (hrule : rule.aggregate = .sum) (hsettled : IsSettled rule.key records)
    (hperm : reordered.Perm records) :
    SameOutcome (rule.evaluate records) (rule.evaluate reordered) := by
  cases hsettled with
  | refused hmem hrefused =>
    obtain ⟨defect, hdefect⟩ := exists_decimalSum_eq_error hmem hrefused
    obtain ⟨defect', hdefect'⟩ := exists_decimalSum_eq_error (hperm.mem_iff.mpr hmem) hrefused
    rw [evaluate_eq_error hrule hdefect, evaluate_eq_error hrule hdefect']
    exact .defects _ _
  | fits hreads hscale hfit hsum =>
    obtain ⟨total, htotal, hvalue⟩ := exists_decimalSum_of_perm (.refl _) hreads hscale hfit
    obtain ⟨total', htotal', hvalue'⟩ := exists_decimalSum_of_perm hperm hreads hscale hfit
    rw [evaluate_eq_ok hrule htotal, evaluate_eq_ok hrule htotal']
    refine .values (Decimal96.eq_toBinary64_roundPlaces (by decide : 13 + reportedPlaces ≤ 15) ?_
      (hvalue.trans hvalue'.symm))
    rwa [hvalue]

/-- The numbers `0.25`, `-0.25` and `3.5` come to `3.5` in one order and to `3.50` in another, and
both are reported as one number. -/
theorem sum_of_perm_cancelling :
    let record (bits : UInt64) : Attributes := ⟨[("x", .number ⟨bits⟩)]⟩
    let quarter := record 0x3fd0000000000000
    let back := record 0xbfd0000000000000
    let large := record 0x400c000000000000
    let rule : ApplyRule := ⟨"total", .sum, ⟨"d", "x"⟩⟩
    decimalSum rule.key [quarter, back, large] = .ok ⟨false, 35, 1⟩ ∧
      decimalSum rule.key [quarter, large, back] = .ok ⟨false, 350, 2⟩ ∧
      SameOutcome (rule.evaluate [quarter, back, large])
        (rule.evaluate [quarter, large, back]) := by
  intro record quarter back large rule
  let reads : List Decimal96 := [⟨false, 25, 2⟩, ⟨true, 25, 2⟩, ⟨false, 35, 1⟩]
  have hreads : List.Forall₂ (ReadsDecimal rule.key) [quarter, back, large] reads :=
    .cons ⟨_, rfl, by decide +kernel⟩ (.cons ⟨_, rfl, by decide +kernel⟩
      (.cons ⟨_, rfl, by decide +kernel⟩ .nil))
  have hscale : ∀ read ∈ reads, read.scale ≤ 2 := by decide
  have hsettled : IsSettled rule.key [quarter, back, large] :=
    .fits hreads hscale (by decide +kernel) (by decide +kernel)
  have hperm : [quarter, large, back].Perm [quarter, back, large] := .cons _ (.swap _ _ _)
  exact ⟨by decide +kernel, by decide +kernel, sum_of_perm rfl hsettled hperm⟩

/-- **A sum that is not settled may depend on the order of the records.** The numbers are `8.005`,
`-10 ^ (-28)` and `-4`. In the first order the second number is rounded away, and the sum is
reported as `4.01`. In the other it is not, and the sum is reported as `4`. -/
theorem exists_perm_not_sameOutcome :
    let record (bits : UInt64) : Attributes := ⟨[("x", .number ⟨bits⟩)]⟩
    let large := record 0x4020028f5c28f5c3
    let tiny := record 0xba1fb0f6be506019
    let back := record 0xc010000000000000
    let rule : ApplyRule := ⟨"total", .sum, ⟨"d", "x"⟩⟩
    [large, back, tiny].Perm [large, tiny, back] ∧
      (∀ record ∈ [large, tiny, back], ∃ value : Binary64,
        field? record rule.key.field = some (.number value) ∧ value.isFinite = true) ∧
      ¬SameOutcome (rule.evaluate [large, tiny, back]) (rule.evaluate [large, back, tiny]) := by
  intro record large tiny back rule
  refine ⟨.cons _ (.swap _ _ _), ?_, by decide +kernel⟩
  simp only [List.forall_mem_cons, List.not_mem_nil, false_implies, implies_true, and_true]
  exact ⟨⟨_, rfl, by decide⟩, ⟨_, rfl, by decide⟩, ⟨_, rfl, by decide⟩⟩

end Registrar
