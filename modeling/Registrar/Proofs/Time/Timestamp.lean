import Registrar.Proofs.Number.Digits
import Registrar.Proofs.Number.Power
import Registrar.Proofs.Outcome
import Registrar.Proofs.Time.Calendar
import Registrar.Time.Timestamp

/-!
# Timestamps are read back

Reading the text of a timestamp gives the timestamp. Every part of the text has a reader of its own,
and a lemma that says what it reads and what it leaves over.

## Main definitions

* `Timestamp.InRange` — the timestamps there are: the year has a text, the second is one of a day,
  and a leap second comes at the end of a minute.

## Main results

* `Timestamp.read_text` — the round trip.
-/

namespace Registrar

namespace Timestamp

/-- A timestamp that stands for a point in time. -/
structure InRange (t : Timestamp) : Prop where
  year : isYear (dateOfDays t.day).1 = true
  second_lt : t.second < 86400
  nano_lt : t.nano < 2000000000
  leap : 1000000000 ≤ t.nano → t.second % 60 = 59

/-! ### Digits -/

theorem isDigit_of_mem_padded {width n : Nat} {c : Char} (h : c ∈ padded width n) :
    isDigit c = true := by
  rw [padded, List.mem_append, List.mem_replicate] at h
  obtain ⟨-, rfl⟩ | h := h
  · rfl
  · exact isDigit_of_mem_toDigits h

theorem natOfDigits_padded (width n : Nat) : natOfDigits (padded width n) = n := by
  rw [padded, natOfDigits_zeros, natOfDigits_toDigits]

theorem length_padded {width n : Nat} (hwidth : 0 < width) (h : n < 10 ^ width) :
    (padded width n).length = width := by
  have hdigits : (Nat.toDigits 10 n).length ≤ width :=
    (Nat.length_toDigits_le_iff (by decide) hwidth).mpr h
  rw [padded, List.length_append, List.length_replicate]
  omega

/-- A padded number starts with a digit. -/
theorem padded_eq_cons (width n : Nat) :
    ∃ c tail, padded width n = c :: tail ∧ isDigit c = true := by
  cases hpadded : padded width n with
  | nil =>
    rw [padded, List.append_eq_nil_iff] at hpadded
    exact absurd hpadded.2 Nat.toDigits_ne_nil
  | cons c tail =>
    exact ⟨c, tail, rfl, isDigit_of_mem_padded (by rw [hpadded]; exact List.mem_cons_self)⟩

theorem isWhiteSpace_of_isDigit {c : Char} (h : isDigit c = true) : isWhiteSpace c = false := by
  have hcode : 48 ≤ c.toNat ∧ c.toNat ≤ 57 := of_decide_eq_true h
  have hall : ∀ n < 58, 48 ≤ n → inRanges whiteSpaceRanges n = false := by decide
  exact hall c.toNat (by omega) hcode.1

theorem trimLeft_of_not_blank {c : Char} {tail : List Char} (h : isWhiteSpace c = false) :
    trimLeft (c :: tail) = c :: tail := by
  rw [trimLeft, List.dropWhile_cons_of_neg (by simp [h])]

theorem trimLeft_padded (width n : Nat) (rest : List Char) :
    trimLeft (padded width n ++ rest) = padded width n ++ rest := by
  obtain ⟨c, tail, hpadded, hc⟩ := padded_eq_cons width n
  rw [hpadded, List.cons_append, trimLeft_of_not_blank (isWhiteSpace_of_isDigit hc)]

theorem scanDigits_padded (width n : Nat) (rest : List Char) :
    scanDigits (padded width n) (padded width n ++ rest) = .ok (n, rest) := by
  obtain ⟨c, tail, hpadded, -⟩ := padded_eq_cons width n
  have hvalue := natOfDigits_padded width n
  rw [hpadded] at hvalue ⊢
  rw [scanDigits, hvalue, List.drop_left]
  all_goals simp

theorem scanNumber_padded {width n : Nat} (hwidth : 0 < width) (h : n < 10 ^ width)
    (rest : List Char) : scanNumber width (padded width n ++ rest) = .ok (n, rest) := by
  have htake : (padded width n ++ rest).take width = padded width n := by
    rw [List.take_append_of_le_length (Nat.le_of_eq (length_padded hwidth h).symm),
      List.take_of_length_le (Nat.le_of_eq (length_padded hwidth h))]
  have hdigits : (padded width n).takeWhile isDigit = padded width n :=
    List.takeWhile_eq_self_iff.mpr fun c hc => isDigit_of_mem_padded hc
  rw [scanNumber, trimLeft_padded, htake, hdigits, scanDigits_padded]

theorem scanWithin_padded {low high n : Nat} (hlow : low ≤ n) (hhigh : n ≤ high) (h : n < 100)
    (rest : List Char) : scanWithin low high (padded 2 n ++ rest) = .ok (n, rest) := by
  rw [scanWithin, scanNumber_padded (by decide) h]
  rw [bind_ok]
  exact if_neg (by omega)

theorem scanMark_cons {mark : Char} (h : isWhiteSpace mark = false) (rest : List Char) :
    scanMark mark (mark :: rest) = .ok rest := by
  rw [scanMark, trimLeft_of_not_blank h]
  exact if_pos rfl

/-! ### Parts -/

/-- A padded number is the longest row of digits where no digit follows. -/
theorem scanDigits_takeWhile_padded (width n : Nat) {rest : List Char} (hrest : NoDigit rest) :
    scanDigits ((padded width n ++ rest).takeWhile isDigit) (padded width n ++ rest) =
      .ok (n, rest) := by
  rw [takeWhile_isDigit (fun c hc => isDigit_of_mem_padded hc) hrest, scanDigits_padded]

theorem scanYearNumber_yearText {year : Int} {rest : List Char} (hrest : NoDigit rest) :
    scanYearNumber (yearText year ++ rest) = .ok (year, rest) := by
  rw [yearText]
  split
  · next hshort =>
    obtain ⟨n, rfl⟩ := Int.eq_ofNat_of_zero_le hshort.1
    have hn : n < 10 ^ 4 := by
      have hle := hshort.2
      omega
    have hnumber := scanNumber_padded (by decide) hn rest
    rw [Int.toNat_natCast, scanYearNumber, trimLeft_padded]
    obtain ⟨c, tail, hpadded, hc⟩ := padded_eq_cons 4 n
    rw [hpadded, List.cons_append] at hnumber ⊢
    split
    · next heq =>
      rw [(List.cons.inj heq).1] at hc
      cases hc
    · next heq =>
      rw [(List.cons.inj heq).1] at hc
      cases hc
    · rw [hnumber]
      rfl
  · split
    · next hnegative =>
      rw [List.cons_append, scanYearNumber, trimLeft_of_not_blank (by decide)]
      simp only [scanDigits_takeWhile_padded 4 year.natAbs hrest, bind_ok]
      rw [Int.ofNat_natAbs_of_nonpos (Int.le_of_lt hnegative), Int.neg_neg]
      rfl
    · next hpositive =>
      rw [List.cons_append, scanYearNumber, trimLeft_of_not_blank (by decide)]
      simp only [scanDigits_takeWhile_padded 4 year.natAbs hrest, bind_ok]
      rw [Int.natAbs_of_nonneg (Int.not_lt.mp hpositive)]
      rfl

theorem scanYear_yearText {year : Int} (h : isYear year = true) {rest : List Char}
    (hrest : NoDigit rest) : scanYear (yearText year ++ rest) = .ok (year, rest) := by
  have hbound : (twoPow (yearBits - 1) : Int) = 2147483648 := rfl
  simp only [isYear, Bool.and_eq_true, decide_eq_true_eq] at h
  rw [scanYear, scanYearNumber_yearText hrest, bind_ok]
  simp only [hbound]
  exact if_neg (by omega)

theorem scanFraction_padded {width n : Nat} (hpos : 0 < width) (hwidth : width ≤ 9)
    (h : n < 10 ^ width) :
    scanFraction ('.' :: (padded width n ++ ['Z'])) = .ok (n * tenPow (9 - width), ['Z']) := by
  have hlength := length_padded hpos h
  have hkept : ((padded width n ++ ['Z']).take 9).takeWhile isDigit = padded width n := by
    rw [List.take_append, List.take_of_length_le (by omega)]
    refine takeWhile_isDigit (fun c hc => isDigit_of_mem_padded hc) ?_
    intro c hc
    obtain rfl : c = 'Z' :=
      List.mem_singleton.mp (List.mem_of_mem_take (List.mem_of_mem_head? hc))
    rfl
  rw [scanFraction, hkept, scanDigits_padded, hlength]
  rfl

theorem scanFraction_fractionText {nano : Nat} (h : nano < 1000000000) :
    scanFraction (fractionText nano ++ ['Z']) = .ok (nano, ['Z']) := by
  rw [fractionText]
  split
  · next hzero =>
    rw [hzero]
    rfl
  split
  · next hmilli =>
    have hscale : nano / 1000000 * tenPow (9 - 3) = nano :=
      Nat.div_mul_cancel (Nat.dvd_of_mod_eq_zero hmilli)
    rw [List.cons_append, scanFraction_padded (by decide) (by decide) (by omega), hscale]
  split
  · next hmicro =>
    have hscale : nano / 1000 * tenPow (9 - 6) = nano :=
      Nat.div_mul_cancel (Nat.dvd_of_mod_eq_zero hmicro)
    rw [List.cons_append, scanFraction_padded (by decide) (by decide) (by omega), hscale]
  · have hscale : nano * tenPow (9 - 9) = nano := Nat.mul_one nano
    rw [List.cons_append, scanFraction_padded (by decide) (by decide) (by omega), hscale]

/-! ### The whole text -/

/-- The parts as they are written in the text of a timestamp. -/
def parts (t : Timestamp) : Parts where
  year := (dateOfDays t.day).1
  month := (dateOfDays t.day).2.1
  day := (dateOfDays t.day).2.2
  hour := t.second / 3600
  minute := t.second / 60 % 60
  second := t.second % 60 + t.nano / 1000000000
  nano := t.nano % 1000000000
  offset := 0

theorem scanParts_text {t : Timestamp} (h : t.InRange) :
    scanParts t.text.toList = .ok (t.parts, []) := by
  obtain ⟨hyear, hsecond, hnano, hleap⟩ := h
  obtain ⟨hmonth, hmonth', hday, hday'⟩ := dateOfDays_inCalendar t.day
  have hday31 := Nat.le_trans hday' (daysInMonth_le _ _)
  have hnodigit : ∀ text, NoDigit ('-' :: text) := by
    rintro text c ⟨⟩
    rfl
  have hyearText := fun text => scanYear_yearText hyear (hnodigit text)
  have hmonthText := scanWithin_padded hmonth hmonth' (by omega)
  have hdayText := scanWithin_padded hday hday31 (by omega)
  have hhourText := scanWithin_padded (n := t.second / 3600) (Nat.zero_le _)
    (show _ ≤ 23 by omega) (by omega)
  have hminuteText := scanWithin_padded (n := t.second / 60 % 60) (Nat.zero_le _)
    (show _ ≤ 59 by omega) (by omega)
  have hsecondText := scanWithin_padded (n := t.second % 60 + t.nano / 1000000000) (Nat.zero_le _)
    (show _ ≤ 60 by omega) (by omega)
  have hfraction := scanFraction_fractionText (Nat.mod_lt t.nano (show 0 < 1000000000 by decide))
  have hdateEnd : ∀ text, scanDateEnd ('T' :: text) = .ok text := fun text => rfl
  have hzone : scanOffset (trimLeft ['Z']) = .ok (0, []) := rfl
  rw [text, String.toList_ofList]
  simp only [scanParts, List.append_assoc, List.cons_append, bind_ok, hyearText,
    scanMark_cons (show isWhiteSpace '-' = false from rfl),
    scanMark_cons (show isWhiteSpace ':' = false from rfl), hmonthText, hdayText,
    hdateEnd, hhourText, hminuteText, hsecondText, hfraction, hzone]
  rfl

theorem ofParts_parts {t : Timestamp} (h : t.InRange) : ofParts t.parts = .ok t := by
  obtain ⟨hyear, hsecond, hnano, hleap⟩ := h
  have hdate := (dateOfDays_inCalendar t.day).day_le
  have hlocal : daysOfDate t.parts.year t.parts.month t.parts.day * 1440 + t.parts.hour * 60 +
      t.parts.minute - t.parts.offset = t.day * 1440 + (t.second / 60 : Nat) := by
    simp only [parts, daysOfDate_dateOfDays]
    omega
  have hday : Int.fdiv (t.day * 1440 + (t.second / 60 : Nat)) 1440 = t.day := by
    rw [Int.fdiv_eq_ediv_of_nonneg _ (by decide)]
    omega
  have hminutes : (t.day * 1440 + (t.second / 60 : Nat) - t.day * 1440).toNat = t.second / 60 := by
    omega
  have hsixtieth : t.parts.second / 60 = t.nano / 1000000000 := by
    simp only [parts]
    omega
  have hcalendar : (!isYear t.parts.year ||
      decide (daysInMonth t.parts.year t.parts.month < t.parts.day) ||
      decide (24 * 60 ≤ t.parts.offset.natAbs)) = false := by
    simp only [parts, hyear, Nat.not_lt.mpr hdate]
    rfl
  rw [ofParts, hcalendar]
  simp only [hlocal, hday, hminutes, hsixtieth, hyear, Bool.not_true, Bool.false_eq_true, if_false]
  congr 1
  rw [Timestamp.mk.injEq]
  refine ⟨rfl, ?_, ?_⟩ <;> simp only [parts] <;> omega

/-- **Reading the text of a timestamp gives the timestamp.** -/
theorem read_text {t : Timestamp} (h : t.InRange) : read t.text.toList = .ok t := by
  rw [read, scanParts_text h, bind_ok]
  exact ofParts_parts h

theorem ofText?_text {t : Timestamp} (h : t.InRange) : ofText? t.text = some t := by
  rw [ofText?, read_text h]
  rfl

end Timestamp

end Registrar
