import Mathlib.Algebra.Order.BigOperators.Group.List
import Registrar.Proofs.Number.Quotient
import Registrar.Proofs.Query.Safety

/-!
# Sums and averages of decimals

A sum is taken over the decimals that the texts of the numbers stand for. It is built up record by
record, and each partial sum is a decimal that might lose digits. None does if the sizes of all
numbers together fit at a scale that none of the texts exceeds: the sizes added so far and those to
come bound every partial sum, and no partial sum has a larger scale than its terms. As only sizes
count, the order of the records makes no difference.

## Main definitions

* `WritesDecimal` — a record whose number is written as a given decimal.
* `ReadsDecimal` — a record whose number is converted to a given decimal of 96 bits.
* `addMeasure` — one step of a sum.

## Main results

* `exists_decimalSum` — a sum that fits is exact.
* `sum_is_exact` — the reported sum is the exact one, rounded once, in every order.
* `average_is_exact` — the reported average is the exact mean, rounded once.
-/

namespace Registrar

variable {α : Type} [HasFields α] {key : FieldKey} {records : List α} {decimals : List Decimal}
  {reads : List Decimal96}

/-! ### Numbers and their decimals -/

/-- The record has a finite number in the field, and `d` is read from the text of that number. -/
def WritesDecimal (key : FieldKey) (record : α) (d : Decimal) : Prop :=
  ∃ value, field? record key.field = some (.number value) ∧ value.isFinite = true ∧
    Decimal.ofText? value.plainText = some d

/-- The record has a number in the field, and `read` is what the number is converted to. -/
def ReadsDecimal (key : FieldKey) (record : α) (read : Decimal96) : Prop :=
  ∃ value, field? record key.field = some (.number value) ∧ decimalOf value = .ok read

/-- Every finite number is written as some decimal. -/
theorem exists_writesDecimal {record : α} {value : Binary64}
    (hvalue : field? record key.field = some (.number value)) (hfinite : value.isFinite = true) :
    ∃ d, WritesDecimal key record d :=
  ⟨value.plainDecimal, value, hvalue, hfinite, Binary64.ofText?_plainText hfinite⟩

/-- A decimal that is read as it is, is what the number is converted to. -/
theorem decimalOf_eq_ok {value : Binary64} {d : Decimal} {read : Decimal96}
    (hfinite : value.isFinite = true) (htext : Decimal.ofText? value.plainText = some d)
    (hread : Decimal96.ofDecimal? d = some read) : decimalOf value = .ok read := by
  obtain rfl : value.plainDecimal = d := by
    rwa [Binary64.ofText?_plainText hfinite, Option.some_inj] at htext
  rw [decimalOf, if_pos hfinite, hread]
  rfl

/-! ### Exact sums -/

/-- One step of a sum. -/
def addMeasure (key : FieldKey) (total : Decimal96) (record : α) : Except Defect Decimal96 := do
  let value ← measureOf key record
  let decimal ← decimalOf value
  orDefect .sumOverflow (total.add? decimal)

theorem decimalSum_eq_foldlM (key : FieldKey) (records : List α) :
    decimalSum key records = records.foldlM (addMeasure key) Decimal96.zero := rfl

/-- The sizes of decimals, added up. -/
def totalSize (decimals : List Decimal) : ℚ :=
  (decimals.map fun d => |d.value|).sum

/-- The decimals, added up. -/
def totalValue (decimals : List Decimal) : ℚ :=
  (decimals.map Decimal.value).sum

theorem totalSize_eq (decimals : List Decimal) :
    totalSize decimals = ((decimals.map Decimal.value).map abs).sum := by
  rw [totalSize, List.map_map]
  rfl

theorem totalSize_nonneg (decimals : List Decimal) : 0 ≤ totalSize decimals := by
  refine List.sum_nonneg fun size hsize => ?_
  obtain ⟨d, -, rfl⟩ := List.mem_map.mp hsize
  exact abs_nonneg _

/-- A number whose decimal fits is converted to it. -/
theorem WritesDecimal.exists_reads {record : α} {d : Decimal} {scale : Nat}
    (hwrites : WritesDecimal key record d) (hmax : scale ≤ maxScale) (hscale : d.scale ≤ scale)
    (hfit : |d.value| * tenPow scale < coefficientBound) :
    ∃ read, ReadsDecimal key record read ∧ read.value = d.value ∧ read.scale ≤ scale := by
  obtain ⟨value, hvalue, hfinite, htext⟩ := hwrites
  obtain ⟨read, hread, hsame, hreadScale⟩ := Decimal96.exists_ofDecimal? hmax hscale hfit
  exact ⟨read, ⟨value, hvalue, decimalOf_eq_ok hfinite htext hread⟩, hsame, hreadScale⟩

/-- A step is exact if both terms fit together. -/
theorem exists_addMeasure {record : α} {read total : Decimal96} {scale : Nat}
    (hreads : ReadsDecimal key record read) (hscale : read.scale ≤ scale)
    (htotal : total.scale ≤ scale)
    (hfit : (|total.value| + |read.value|) * tenPow scale < coefficientBound) :
    ∃ next, addMeasure key total record = .ok next ∧ next.value = total.value + read.value ∧
      next.scale ≤ scale := by
  obtain ⟨value, hvalue, hread⟩ := hreads
  obtain ⟨next, hnext, hsum, hnextScale⟩ := Decimal96.exists_add? htotal hscale hfit
  refine ⟨next, ?_, hsum, hnextScale⟩
  rw [addMeasure, measureOf_eq_ok_iff.mpr hvalue, bind_ok, hread, bind_ok, hnext]
  rfl

/-- **A run of steps is exact if all its terms fit together.** -/
theorem exists_foldlM_addMeasure {scale : Nat}
    (hreads : List.Forall₂ (ReadsDecimal key) records reads)
    (hscale : ∀ read ∈ reads, read.scale ≤ scale) {total : Decimal96}
    (htotal : total.scale ≤ scale)
    (hfit : (|total.value| + totalSize (reads.map Decimal96.toDecimal)) * tenPow scale <
      coefficientBound) :
    ∃ last, records.foldlM (addMeasure key) total = .ok last ∧
      last.value = total.value + totalValue (reads.map Decimal96.toDecimal) ∧
      last.scale ≤ scale := by
  induction hreads generalizing total with
  | nil => exact ⟨total, rfl, by simp [totalValue], htotal⟩
  | @cons record read records reads hrecord _ ih =>
    obtain ⟨hread, hscale⟩ := List.forall_mem_cons.mp hscale
    rw [List.map_cons] at hfit ⊢
    generalize hrest : reads.map Decimal96.toDecimal = decimals at hfit ih ⊢
    have hsize : totalSize (read.toDecimal :: decimals) = |read.value| + totalSize decimals := rfl
    have hnonneg := totalSize_nonneg decimals
    have hpower : (0 : ℚ) ≤ tenPow scale := Nat.cast_nonneg _
    have hfirst : (|total.value| + |read.value|) * tenPow scale < coefficientBound :=
      (mul_le_mul_of_nonneg_right (by linarith) hpower).trans_lt hfit
    obtain ⟨next, hnext, hsum, hnextScale⟩ := exists_addMeasure hrecord hread htotal hfirst
    have hle : |next.value| ≤ |total.value| + |read.value| := hsum ▸ abs_add_le _ _
    have hfitNext : (|next.value| + totalSize decimals) * tenPow scale < coefficientBound :=
      (mul_le_mul_of_nonneg_right (by linarith) hpower).trans_lt hfit
    obtain ⟨last, hlast, hvalue, hlastScale⟩ := ih hscale hnextScale hfitNext
    refine ⟨last, ?_, ?_, hlastScale⟩
    · rw [List.foldlM_cons, hnext, bind_ok, hlast]
    · rw [hvalue, hsum, add_assoc]
      rfl

/-- Numbers whose decimals fit together are converted to them. -/
theorem exists_forall₂_reads {scale : Nat}
    (hwrites : List.Forall₂ (WritesDecimal key) records decimals) (hmax : scale ≤ maxScale)
    (hscale : ∀ d ∈ decimals, d.scale ≤ scale)
    (hfit : totalSize decimals * tenPow scale < coefficientBound) :
    ∃ reads, List.Forall₂ (ReadsDecimal key) records reads ∧
      reads.map Decimal96.value = decimals.map Decimal.value ∧
      ∀ read ∈ reads, read.scale ≤ scale := by
  induction hwrites with
  | nil => exact ⟨[], .nil, rfl, by simp⟩
  | @cons record d records decimals hrecord _ ih =>
    obtain ⟨hd, hscale⟩ := List.forall_mem_cons.mp hscale
    have hsize : totalSize (d :: decimals) = |d.value| + totalSize decimals := rfl
    have hpower : (0 : ℚ) ≤ tenPow scale := Nat.cast_nonneg _
    have hnonneg := totalSize_nonneg decimals
    have hfirst : |d.value| * tenPow scale < coefficientBound :=
      (mul_le_mul_of_nonneg_right (by linarith) hpower).trans_lt hfit
    have hrest : totalSize decimals * tenPow scale < coefficientBound :=
      (mul_le_mul_of_nonneg_right (by linarith [abs_nonneg d.value]) hpower).trans_lt hfit
    obtain ⟨read, hread, hvalue, hreadScale⟩ := hrecord.exists_reads hmax hd hfirst
    obtain ⟨reads, hreads, hvalues, hscales⟩ := ih hscale hrest
    refine ⟨read :: reads, .cons hread hreads, ?_, List.forall_mem_cons.mpr ⟨hreadScale, hscales⟩⟩
    rw [List.map_cons, List.map_cons, hvalue, hvalues]

/-- **A sum of decimals that fit together is exact.** -/
theorem exists_decimalSum_of_reads {scale : Nat}
    (hreads : List.Forall₂ (ReadsDecimal key) records reads)
    (hscale : ∀ read ∈ reads, read.scale ≤ scale)
    (hfit : totalSize (reads.map Decimal96.toDecimal) * tenPow scale < coefficientBound) :
    ∃ total, decimalSum key records = .ok total ∧
      total.value = totalValue (reads.map Decimal96.toDecimal) ∧ total.scale ≤ scale := by
  have hzero : (|Decimal96.zero.value| + totalSize (reads.map Decimal96.toDecimal)) *
      tenPow scale < coefficientBound := by
    rwa [Decimal96.value_zero, abs_zero, zero_add]
  obtain ⟨total, htotal, hvalue, htotalScale⟩ :=
    exists_foldlM_addMeasure hreads hscale (Nat.zero_le _) hzero
  refine ⟨total, ?_, ?_, htotalScale⟩
  · rw [decimalSum_eq_foldlM, htotal]
  · rw [hvalue, Decimal96.value_zero, zero_add]

/-- **A sum that fits is exact.** -/
theorem exists_decimalSum {scale : Nat}
    (hwrites : List.Forall₂ (WritesDecimal key) records decimals) (hmax : scale ≤ maxScale)
    (hscale : ∀ d ∈ decimals, d.scale ≤ scale)
    (hfit : totalSize decimals * tenPow scale < coefficientBound) :
    ∃ total, decimalSum key records = .ok total ∧ total.value = totalValue decimals ∧
      total.scale ≤ scale := by
  obtain ⟨reads, hreads, hvalues, hscales⟩ := exists_forall₂_reads hwrites hmax hscale hfit
  have hsame : (reads.map Decimal96.toDecimal).map Decimal.value = decimals.map Decimal.value := by
    rw [List.map_map, ← hvalues]
    rfl
  have hsize : totalSize (reads.map Decimal96.toDecimal) = totalSize decimals := by
    rw [totalSize_eq, totalSize_eq, hsame]
  have hvalue : totalValue (reads.map Decimal96.toDecimal) = totalValue decimals :=
    congrArg List.sum hsame
  obtain ⟨total, htotal, hexact, htotalScale⟩ :=
    exists_decimalSum_of_reads hreads hscales (hsize ▸ hfit)
  exact ⟨total, htotal, hexact.trans hvalue, htotalScale⟩

/-! ### The reported sum -/

/-- The reported sum of records whose numbers fit together. -/
theorem exists_sumDecimal {scale : Nat}
    (hwrites : List.Forall₂ (WritesDecimal key) records decimals) (hmax : scale ≤ maxScale)
    (hscale : ∀ d ∈ decimals, d.scale ≤ scale)
    (hfit : totalSize decimals * tenPow scale < coefficientBound) :
    ∃ total, sumDecimal key records = .ok total ∧
      total.value = roundHalfAway 2 (totalValue decimals) := by
  obtain ⟨total, htotal, hvalue, -⟩ := exists_decimalSum hwrites hmax hscale hfit
  refine ⟨total.roundPlaces reportedPlaces, ?_, ?_⟩
  · rw [sumDecimal, htotal]
    rfl
  · rw [Decimal96.value_roundPlaces, hvalue, reportedPlaces]

/-- **The sum is exact.** The texts of the numbers have at most `scale` places, and their sizes
together are below `2 ^ 96` in the last of these places. Then, in whatever order the records come,
there is a sum, and the decimal that is reported as a 64-bit number is the sum of the values of the
texts, rounded to two places with a half going away from zero. -/
theorem sum_is_exact {rule : ApplyRule} (hrule : rule.aggregate = .sum) {records : List α}
    {decimals : List Decimal} {scale : Nat}
    (hwrites : List.Forall₂ (WritesDecimal rule.key) records decimals) (hmax : scale ≤ 28)
    (hscale : ∀ d ∈ decimals, d.scale ≤ scale)
    (hfit : totalSize decimals * tenPow scale < twoPow 96) :
    ∀ reordered, reordered.Perm records → ∃ total, sumDecimal rule.key reordered = .ok total ∧
      total.value = roundHalfAway 2 (totalValue decimals) ∧
      rule.evaluate reordered = .ok (.number total.toBinary64) := by
  intro reordered hperm
  obtain ⟨others, hothers, hsame⟩ := List.perm_comp_forall₂ hperm hwrites
  have hsize : totalSize others = totalSize decimals := (hsame.map _).sum_eq
  have hvalue : totalValue others = totalValue decimals := (hsame.map _).sum_eq
  obtain ⟨total, htotal, hrounded⟩ := exists_sumDecimal hothers hmax
    (fun d hd => hscale d (hsame.subset hd)) (hsize ▸ hfit)
  refine ⟨total, htotal, hvalue ▸ hrounded, ?_⟩
  simp only [ApplyRule.evaluate, hrule, htotal]
  rfl

/-- The numbers `0.1`, `0.2` and `-1.305` come to `-1.005`, which is reported as `-1.01`. -/
theorem sum_is_exact_midpoint :
    let record (bits : UInt64) : Attributes := ⟨[("x", .number ⟨bits⟩)]⟩
    let records := [record 0x3fb999999999999a, record 0x3fc999999999999a, record 0xbff4e147ae147ae1]
    let decimals : List Decimal := [⟨false, 1, 1⟩, ⟨false, 2, 1⟩, ⟨true, 1305, 3⟩]
    let rule : ApplyRule := ⟨"total", .sum, ⟨"d", "x"⟩⟩
    List.Forall₂ (WritesDecimal rule.key) records decimals ∧
      ∃ total, sumDecimal rule.key records.reverse = .ok total ∧ total.value = -101 / 100 ∧
        rule.evaluate records.reverse = .ok (.number total.toBinary64) := by
  intro record records decimals rule
  have hwrites : List.Forall₂ (WritesDecimal rule.key) records decimals :=
    .cons ⟨_, rfl, by decide +kernel, by decide +kernel⟩
      (.cons ⟨_, rfl, by decide +kernel, by decide +kernel⟩
        (.cons ⟨_, rfl, by decide +kernel, by decide +kernel⟩ .nil))
  have hrounded : roundHalfAway 2 (totalValue decimals) = -101 / 100 := by decide +kernel
  refine ⟨hwrites, ?_⟩
  rw [← hrounded]
  exact sum_is_exact rfl hwrites (by decide : 3 ≤ 28) (by decide +kernel) (by decide +kernel)
    records.reverse (List.reverse_perm records)

/-! ### The reported average -/

theorem abs_totalValue_le (decimals : List Decimal) :
    |totalValue decimals| ≤ totalSize decimals := by
  induction decimals with
  | nil => simp [totalValue, totalSize]
  | cons d decimals ih => exact (abs_add_le _ _).trans (add_le_add_right ih _)

theorem totalSize_lt {bound : ℚ} (hne : decimals ≠ [])
    (hsize : ∀ d ∈ decimals, |d.value| < bound) :
    totalSize decimals < decimals.length * bound := by
  have hless := List.sum_lt_sum_of_ne_nil hne (fun d => |d.value|) (fun _ => bound) hsize
  rwa [List.map_const', List.sum_replicate, nsmul_eq_mul] at hless

/-- Where there is room for an average, the sum fits. -/
theorem fits_of_room {size : ℚ} {count digits scale : Nat} (hcount : 0 < count)
    (hsize : size < count * tenPow digits)
    (hroom : count * tenPow (scale + digits + 2) < tenPow 28) :
    scale ≤ maxScale ∧ size * tenPow scale < coefficientBound := by
  constructor
  · have hpower : scale + digits + 2 < 28 :=
      lt_of_tenPow_lt ((Nat.le_mul_of_pos_left _ hcount).trans_lt hroom)
    rw [maxScale]
    omega
  · have hbound : tenPow 28 < coefficientBound := by decide
    calc size * tenPow scale
        ≤ count * tenPow digits * tenPow scale :=
          mul_le_mul_of_nonneg_right hsize.le (Nat.cast_nonneg _)
      _ = ((count * tenPow (scale + digits) : ℕ) : ℚ) := by
          rw [tenPow_add]
          push_cast
          ring
      _ ≤ ((count * tenPow (scale + digits + 2) : ℕ) : ℚ) :=
          Nat.cast_le.mpr (Nat.mul_le_mul_left _ (tenPow_le_tenPow (Nat.le_add_right _ _)))
      _ < coefficientBound := Nat.cast_lt.mpr (hroom.trans hbound)

/-- The reported average of records whose numbers leave room. -/
theorem exists_averageDecimal {scale digits : Nat} (hne : records ≠ [])
    (hwrites : List.Forall₂ (WritesDecimal key) records decimals)
    (hscale : ∀ d ∈ decimals, d.scale ≤ scale) (hsize : ∀ d ∈ decimals, |d.value| < tenPow digits)
    (hroom : records.length * tenPow (scale + digits + 2) < tenPow 28) :
    ∃ average, averageDecimal key records = .ok average ∧
      average.value = roundHalfAway 2 (totalValue decimals / records.length) := by
  have hcount : 0 < records.length := List.length_pos_of_ne_nil hne
  have hlength := hwrites.length_eq
  have hless := totalSize_lt (List.ne_nil_of_length_pos (hlength ▸ hcount)) hsize
  rw [← hlength] at hless
  obtain ⟨hmax, hfit⟩ := fits_of_room hcount hless hroom
  obtain ⟨total, htotal, hexact, htotalScale⟩ := exists_decimalSum hwrites hmax hscale hfit
  have hroomTotal : records.length * tenPow total.scale * tenPow (digits + 2) < tenPow 28 := by
    refine lt_of_le_of_lt ?_ hroom
    rw [Nat.mul_assoc, ← tenPow_add]
    exact Nat.mul_le_mul_left _ (tenPow_le_tenPow (by omega))
  obtain ⟨quotient, hquotient, hrounded⟩ := Decimal96.exists_roundPlaces_divNat? 2 hcount
    (hexact ▸ (abs_totalValue_le decimals).trans_lt hless) hroomTotal
  refine ⟨quotient.roundPlaces reportedPlaces, ?_, hexact ▸ hrounded⟩
  rw [averageDecimal, htotal, bind_ok, if_neg (by simpa using hne), hquotient]
  rfl

/-- **The average is exact, and rounded once.** The texts of the numbers have at most `scale` places
and their sizes are below `10 ^ digits`; with the digits of the count and two places more, that is
less than 28 digits. Then there is an average, and the decimal that is reported as a 64-bit number
is the mean of the values of the texts, rounded to two places with a half going away from zero. The
average of one number is that number, rounded. -/
theorem average_is_exact {rule : ApplyRule} (hrule : rule.aggregate = .avg) {records : List α}
    {decimals : List Decimal} {scale digits : Nat} (hne : records ≠ [])
    (hwrites : List.Forall₂ (WritesDecimal rule.key) records decimals)
    (hscale : ∀ d ∈ decimals, d.scale ≤ scale) (hsize : ∀ d ∈ decimals, |d.value| < tenPow digits)
    (hroom : records.length * tenPow (scale + digits + 2) < tenPow 28) :
    ∃ average, averageDecimal rule.key records = .ok average ∧
      average.value = roundHalfAway 2 (totalValue decimals / records.length) ∧
      rule.evaluate records = .ok (.number average.toBinary64) ∧
      ∀ d, decimals = [d] → average.value = roundHalfAway 2 d.value := by
  obtain ⟨average, haverage, hvalue⟩ := exists_averageDecimal hne hwrites hscale hsize hroom
  refine ⟨average, haverage, hvalue, ?_, ?_⟩
  · simp only [ApplyRule.evaluate, hrule, haverage]
    rfl
  · rintro d rfl
    rw [hvalue, hwrites.length_eq]
    simp [totalValue]

/-- The average of `72.25` and `97` is `84.625`, which is reported as `84.63`. -/
theorem average_is_exact_midpoint :
    let record (bits : UInt64) : Attributes := ⟨[("x", .number ⟨bits⟩)]⟩
    let records := [record 0x4052100000000000, record 0x4058400000000000]
    let decimals : List Decimal := [⟨false, 7225, 2⟩, ⟨false, 97, 0⟩]
    let rule : ApplyRule := ⟨"mean", .avg, ⟨"d", "x"⟩⟩
    List.Forall₂ (WritesDecimal rule.key) records decimals ∧
      ∃ average, averageDecimal rule.key records = .ok average ∧ average.value = 8463 / 100 ∧
        rule.evaluate records = .ok (.number average.toBinary64) := by
  intro record records decimals rule
  have hwrites : List.Forall₂ (WritesDecimal rule.key) records decimals :=
    .cons ⟨_, rfl, by decide +kernel, by decide +kernel⟩
      (.cons ⟨_, rfl, by decide +kernel, by decide +kernel⟩ .nil)
  have hrounded : roundHalfAway 2 (totalValue decimals / records.length) = 8463 / 100 := by
    decide +kernel
  have hscale : ∀ d ∈ decimals, d.scale ≤ 2 := by decide
  have hsize : ∀ d ∈ decimals, |d.value| < tenPow 2 := by decide +kernel
  obtain ⟨average, haverage, hvalue, hreported, -⟩ :=
    average_is_exact rfl (by simp [records]) hwrites hscale hsize (by decide +kernel)
  exact ⟨hwrites, average, haverage, hvalue.trans hrounded, hreported⟩

end Registrar
