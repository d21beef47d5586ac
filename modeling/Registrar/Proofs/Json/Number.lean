import Registrar.Json.Parser
import Registrar.Json.Printer
import Registrar.Proofs.Number.Digits
import Registrar.Proofs.Number.Power

/-!
# Numbers in JSON texts

A number is written as a sign, whole digits, perhaps a fraction and perhaps an exponent. There is
one lemma about reading these parts; what they stand for is left to the reader of digits. A whole
number of 64 bits is written as its sign and its digits, and it is read back.

## Main definitions

* `EndsNumber` — a text that does not go on with a part of a number.

## Main results

* `scanNumber_parts` — reading a sign, whole digits, a fraction and an exponent.
* `scanNumber_integer` — the text of a whole number of 64 bits is read as the whole number.
* `unsignedText_of_places` — how a decimal with places is written.
-/

namespace Registrar

namespace Json

/-- A text that does not go on with a part of a number. -/
def EndsNumber (text : List Char) : Prop :=
  ∀ c ∈ text.head?, isDigit c = false ∧ c ≠ '.' ∧ c ≠ 'e' ∧ c ≠ 'E'

theorem EndsNumber.noDigit {text : List Char} (h : EndsNumber text) : NoDigit text :=
  fun c hc => (h c hc).1

/-! ### The parts of a number -/

/-- Whole digits: there are some, and no zero stands before others. -/
structure IsWhole (digits : List Char) : Prop where
  digit : ∀ c ∈ digits, isDigit c = true
  nonempty : digits ≠ []
  zero : digits.head? = some '0' → digits = ['0']

/-- The text of a fraction. -/
def fractionText : Option (List Char) → List Char
  | some digits => '.' :: digits
  | none => []

/-- The text of an exponent. -/
def exponentText : Option (Bool × List Char) → List Char
  | some (negative, digits) => 'e' :: (if negative then '-' else '+') :: digits
  | none => []

/-- The value of an exponent. -/
def exponentValue : Option (Bool × List Char) → Int
  | some (negative, digits) => if negative then -(natOfDigits digits : Int) else natOfDigits digits
  | none => 0

theorem isWhole_toDigits (n : Nat) : IsWhole (Nat.toDigits 10 n) where
  digit _ := isDigit_of_mem_toDigits
  nonempty := Nat.toDigits_ne_nil
  zero h := by
    obtain rfl | hpos := Nat.eq_zero_or_pos n
    · rfl
    · exact absurd h (head?_toDigits_ne_zero hpos)

theorem IsWhole.scanWhole {digits rest : List Char} (h : IsWhole digits) (hrest : NoDigit rest) :
    scanWhole (digits ++ rest) = some (digits, rest) := by
  rw [Json.scanWhole, takeWhile_isDigit h.digit hrest, dropWhile_isDigit h.digit hrest]
  split
  · next => exact absurd rfl h.nonempty
  · next => rfl
  · next tail hne =>
    have hzero := h.zero rfl
    exact absurd hzero fun heq => hne (List.cons.inj heq).2
  · rfl

theorem scanFraction_fractionText {fraction : Option (List Char)} {rest : List Char}
    (hdigits : ∀ digits ∈ fraction, digits ≠ [] ∧ ∀ c ∈ digits, isDigit c = true)
    (hrest : NoDigit rest) (hpoint : ∀ c ∈ rest.head?, c ≠ '.') :
    scanFraction (fractionText fraction ++ rest) = some (fraction, rest) := by
  cases fraction with
  | none =>
    rw [fractionText, List.nil_append, Json.scanFraction]
    intro tail htail
    exact hpoint '.' (by simp [htail]) rfl
  | some digits =>
    obtain ⟨hne, hdigits⟩ := hdigits digits rfl
    rw [fractionText, List.cons_append, Json.scanFraction, takeWhile_isDigit hdigits hrest,
      dropWhile_isDigit hdigits hrest]
    simp [hne]

theorem scanExponent_exponentText {exponent : Option (Bool × List Char)} {rest : List Char}
    (hdigits : ∀ part ∈ exponent, part.2 ≠ [] ∧ ∀ c ∈ part.2, isDigit c = true)
    (hrest : EndsNumber rest) :
    scanExponent (exponentText exponent ++ rest) =
      some (exponent.map fun _ => exponentValue exponent, rest) := by
  cases exponent with
  | none =>
    rw [exponentText, List.nil_append]
    cases rest with
    | nil => rfl
    | cons c rest =>
      obtain ⟨-, -, he, hE⟩ := hrest c rfl
      rw [Json.scanExponent, if_neg (by simp [he, hE])]
      rfl
  | some part =>
    obtain ⟨negative, digits⟩ := part
    obtain ⟨hne, hdigits⟩ := hdigits _ rfl
    have hsplit : Decimal.splitSign ((if negative then '-' else '+') :: (digits ++ rest)) =
        (negative, digits ++ rest) := by
      cases negative <;> rfl
    rw [exponentText, List.cons_append, List.cons_append, Json.scanExponent, if_pos (.inl rfl),
      hsplit]
    dsimp only
    rw [takeWhile_isDigit hdigits hrest.noDigit, dropWhile_isDigit hdigits hrest.noDigit,
      if_neg (by simpa using hne)]
    rfl

/-- The sign of a number. -/
def signText (negative : Bool) : List Char :=
  if negative then ['-'] else []

theorem IsWhole.splitMinus {negative : Bool} {whole rest : List Char} (h : IsWhole whole) :
    splitMinus (signText negative ++ (whole ++ rest)) = (negative, whole ++ rest) := by
  cases negative with
  | true => rfl
  | false =>
    obtain ⟨c, digits, rfl⟩ := List.exists_cons_of_ne_nil h.nonempty
    have hc : isDigit c = true := h.digit c List.mem_cons_self
    rw [signText, if_neg Bool.false_ne_true, List.nil_append, List.cons_append, Json.splitMinus]
    intro tail htail
    obtain rfl : c = '-' := (List.cons.inj htail).1
    cases hc

theorem ends_exponentText (exponent : Option (Bool × List Char)) {rest : List Char}
    (hrest : EndsNumber rest) : NoDigit (exponentText exponent ++ rest) ∧
      ∀ c ∈ (exponentText exponent ++ rest).head?, c ≠ '.' := by
  cases exponent with
  | none => exact ⟨hrest.noDigit, fun c hc => (hrest c hc).2.1⟩
  | some part =>
    have he : isDigit 'e' = false := by decide
    exact ⟨by simp [NoDigit, exponentText, he], by simp [exponentText]⟩

theorem noDigit_fractionText {fraction : Option (List Char)} {rest : List Char}
    (hrest : NoDigit rest) : NoDigit (fractionText fraction ++ rest) := by
  cases fraction with
  | none => exact hrest
  | some digits =>
    have hpoint : isDigit '.' = false := by decide
    simp [NoDigit, fractionText, hpoint]

/-- **Reading a sign, whole digits, a fraction and an exponent.** -/
theorem scanNumber_parts (negative : Bool) (fraction : Option (List Char))
    (exponent : Option (Bool × List Char)) {whole rest : List Char} (hwhole : IsWhole whole)
    (hfraction : ∀ digits ∈ fraction, digits ≠ [] ∧ ∀ c ∈ digits, isDigit c = true)
    (hexponent : ∀ part ∈ exponent, part.2 ≠ [] ∧ ∀ c ∈ part.2, isDigit c = true)
    (hrest : EndsNumber rest) :
    scanNumber (signText negative ++ (whole ++ (fractionText fraction ++
      (exponentText exponent ++ rest)))) =
        (ofParts? negative whole fraction (exponent.map fun _ => exponentValue exponent)).map
          fun value => (value, rest) := by
  obtain ⟨hdigit, hpoint⟩ := ends_exponentText exponent hrest
  rw [scanNumber, hwhole.splitMinus]
  simp only [Option.bind_eq_bind, hwhole.scanWhole (noDigit_fractionText hdigit),
    Option.bind_some, scanFraction_fractionText hfraction hdigit hpoint,
    scanExponent_exponentText hexponent hrest]
  cases ofParts? negative whole fraction (exponent.map fun _ => exponentValue exponent) <;> rfl

/-- A whole number is written as its sign and its digits. -/
theorem toList_toString (n : Int) :
    (toString n).toList = signText (decide (n < 0)) ++ Nat.toDigits 10 n.natAbs := by
  rw [Int.toString_eq_repr, Int.repr_eq_if]
  by_cases hneg : n < 0
  · have habs : (-n).toNat = n.natAbs := by omega
    rw [if_neg (Int.not_le.mpr hneg), habs, signText, if_pos (decide_eq_true hneg),
      String.toList_append, Nat.toList_repr]
    rfl
  · have habs : n.toNat = n.natAbs := by omega
    rw [if_pos (Int.not_lt.mp hneg), habs, signText, if_neg (by simpa using hneg),
      Nat.toList_repr]
    rfl

/-- **The text of a whole number of 64 bits is read as the whole number.** -/
theorem scanNumber_integer {n : Int} {rest : List Char} (hlow : -(twoPow 63 : Int) ≤ n)
    (hhigh : n < twoPow 64) (hrest : EndsNumber rest) :
    scanNumber ((toString n).toList ++ rest) = some (.integer n, rest) := by
  have hsmall : n.natAbs < twoPow 64 := by
    have hpower : twoPow 63 < twoPow 64 := twoPow_lt_twoPow (by decide)
    omega
  have hvalue : ofParts? (decide (n < 0)) (Nat.toDigits 10 n.natAbs) none none =
      some (.integer n) := by
    rw [ofParts?, natOfDigits_toDigits, decide_eq_true hsmall]
    refine congrArg some ?_
    rw [ofDigits]
    by_cases hneg : n < 0
    · rw [if_pos (decide_eq_true hneg), if_pos (by omega)]
      congr 1
      omega
    · rw [if_neg (by simpa using hneg)]
      congr 1
      omega
  have hscan := scanNumber_parts (decide (n < 0)) none none (isWhole_toDigits n.natAbs) (by simp)
    (by simp) hrest
  rw [Option.map_none, hvalue, Option.map_some] at hscan
  rw [toList_toString]
  simpa only [fractionText, exponentText, List.nil_append, List.append_assoc] using hscan

/-! ### The texts of decimals -/

theorem natOfDigits_paddedDigits (d : Decimal) : natOfDigits d.paddedDigits = d.coefficient := by
  rw [Decimal.paddedDigits, natOfDigits_zeros, natOfDigits_toDigits]

theorem isDigit_of_mem_paddedDigits {d : Decimal} {c : Char} (h : c ∈ d.paddedDigits) :
    isDigit c = true := by
  rw [Decimal.paddedDigits, List.mem_append] at h
  obtain h | h := h
  · rw [List.eq_of_mem_replicate h]
    rfl
  · exact isDigit_of_mem_toDigits h

theorem toList_text (d : Decimal) : d.text.toList = signText d.negative ++ d.unsignedText := by
  rw [Decimal.text, String.toList_ofList]
  cases d.negative <;> rfl

/-- A decimal without places is written as its digits. -/
theorem unsignedText_of_whole (negative : Bool) (n : Nat) :
    (Decimal.mk negative n 0).unsignedText = Nat.toDigits 10 n := by
  have hpos : 0 < (Nat.toDigits 10 n).length := Nat.length_toDigits_pos
  have hpad : 0 + 1 - (Nat.toDigits 10 n).length = 0 := by omega
  rw [Decimal.unsignedText, if_pos rfl, Decimal.paddedDigits]
  dsimp only
  rw [hpad]
  rfl

/-- A decimal with places is written as whole digits, a point and its places. -/
theorem unsignedText_of_places {d : Decimal} (h : d.scale ≠ 0) :
    ∃ whole fraction, d.unsignedText = whole ++ '.' :: fraction ∧ IsWhole whole ∧
      whole ++ fraction = d.paddedDigits ∧ fraction.length = d.scale := by
  have hlength : d.paddedDigits.length =
      d.scale + 1 - (Nat.toDigits 10 d.coefficient).length +
        (Nat.toDigits 10 d.coefficient).length := by
    rw [Decimal.paddedDigits, List.length_append, List.length_replicate]
  refine ⟨d.paddedDigits.take (d.paddedDigits.length - d.scale),
    d.paddedDigits.drop (d.paddedDigits.length - d.scale), ?_, ⟨?_, ?_, ?_⟩,
    List.take_append_drop _ _, ?_⟩
  · rw [Decimal.unsignedText, if_neg h]
  · exact fun c hc => isDigit_of_mem_paddedDigits (List.mem_of_mem_take hc)
  · intro hnil
    have := congrArg List.length hnil
    rw [List.length_take, List.length_nil] at this
    omega
  · intro hzero
    by_cases hshort : (Nat.toDigits 10 d.coefficient).length ≤ d.scale
    · -- A zero was put in front, and only that one stands before the point.
      have hpad : d.scale + 1 - (Nat.toDigits 10 d.coefficient).length =
          d.scale - (Nat.toDigits 10 d.coefficient).length + 1 := by omega
      have hone : d.paddedDigits.length - d.scale = 1 := by omega
      rw [hone, Decimal.paddedDigits, hpad, List.replicate_succ]
      rfl
    · have hpad : d.scale + 1 - (Nat.toDigits 10 d.coefficient).length = 0 := by omega
      have hdigits : d.paddedDigits = Nat.toDigits 10 d.coefficient := by
        rw [Decimal.paddedDigits, hpad]
        rfl
      rw [List.head?_take, if_neg (by omega), hdigits] at hzero
      obtain hcoefficient | hpos := Nat.eq_zero_or_pos d.coefficient
      · rw [hcoefficient] at hshort
        exact absurd (Nat.one_le_iff_ne_zero.mpr h) hshort
      · exact absurd hzero (head?_toDigits_ne_zero hpos)
  · rw [List.length_drop]
    omega

/-! ### Signs and exponents -/

theorem toList_signed (negative : Bool) (text : List Char) :
    (Binary64.signed negative (String.ofList text)).toList = signText negative ++ text := by
  cases negative <;> simp [Binary64.signed, signText]

theorem exponentValue_toDigits (power : Int) :
    exponentValue (some (decide (power < 0), Nat.toDigits 10 power.natAbs)) = power := by
  rw [exponentValue, natOfDigits_toDigits]
  by_cases hneg : power < 0
  · rw [if_pos (decide_eq_true hneg)]
    omega
  · rw [if_neg (by simpa using hneg)]
    omega

end Json

end Registrar
