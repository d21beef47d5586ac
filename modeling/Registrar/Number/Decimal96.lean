import Registrar.Number.Layout

/-!
# Decimals of 96 bits

Sums and averages are computed on decimals whose coefficient has at most 96 bits and whose scale is
at most 28. A result that does not fit loses digits after the point, rounded once; a result whose
whole part does not fit is an overflow.

The operations first compute the exact coefficient and then choose how many digits to drop, so an
operation that has room is exact.

## Main definitions

* `Decimal96.ofDecimal?` — the decimal with as many digits as fit.
* `Decimal96.ofTens?` — a whole number, cut to tens.
* `Decimal96.add?`, `Decimal96.divNat?` — sum, and quotient by a count.
* `Decimal96.roundPlaces` — rounds to a number of places, a half going away from zero.
* `Decimal96.toBinary64` — the 64-bit number that is reported.
-/

namespace Registrar

/-- Coefficients are below this bound. -/
def coefficientBound : Nat := twoPow 96

/-- Scales are at most this. -/
def maxScale : Nat := 28

/-- The decimal `± coefficient / 10 ^ scale`, with a coefficient of at most 96 bits and a scale of
at most 28. Zeros may be signed. -/
structure Decimal96 where
  negative : Bool
  coefficient : Nat
  scale : Nat
deriving DecidableEq, Inhabited, Repr

namespace Decimal96

/-- Zero, of scale zero. -/
def zero : Decimal96 := ⟨false, 0, 0⟩

/-- A decimal in which zero carries no sign. -/
def unsignedZero (negative : Bool) (coefficient scale : Nat) : Decimal96 :=
  ⟨negative && coefficient != 0, coefficient, scale⟩

/-- The same digits as a decimal of any size. -/
def toDecimal (d : Decimal96) : Decimal :=
  ⟨d.negative, d.coefficient, d.scale⟩

/-! ### Fitting a coefficient -/

/-- The least number of digits, from `dropped` on, whose removal brings the coefficient below the
bound. Ten digits more than `fuel` are never needed by the callers. -/
def digitsOver (coefficient : Nat) : Nat → Nat → Nat
  | 0, dropped => dropped
  | fuel + 1, dropped =>
    if coefficient / tenPow dropped < coefficientBound then dropped
    else digitsOver coefficient fuel (dropped + 1)

/-- The digits of a decimal that are kept when it is read: all that fit, and at most 28 after the
point. The first digit left out decides the rounding, five and more going up; `none` if the whole
part does not fit. -/
def ofDecimal? (d : Decimal) : Option Decimal96 :=
  let dropped := digitsOver d.coefficient (d.scale + 1) (d.scale - maxScale)
  if dropped = 0 then some (unsignedZero d.negative d.coefficient d.scale)
  else if d.scale < dropped then none
  else
    let scale := d.scale - dropped
    let kept := d.coefficient / tenPow dropped
    let next := d.coefficient / tenPow (dropped - 1) % 10
    let rounded := if 5 ≤ next then kept + 1 else kept
    if rounded < coefficientBound then some (unsignedZero d.negative rounded scale)
    else if scale = 0 then none
    else some (unsignedZero d.negative ((rounded + 4) / 10) (scale - 1))

/-- A whole number without its last digit, if that fits. -/
def ofTens? (negative : Bool) (n : Nat) : Option Decimal96 :=
  let tens := n / 10 * 10
  if tens < coefficientBound then some (unsignedZero negative tens 0) else none

/-- Drops digits until the coefficient fits, rounding once, a half going to the even digit; `none`
if more digits than the scale has would have to go. -/
def fit? (negative : Bool) (coefficient scale : Nat) : Option Decimal96 :=
  let dropped := digitsOver coefficient (scale + 1) 0
  if scale < dropped then none
  else
    let rounded := divEven coefficient (tenPow dropped)
    if rounded < coefficientBound then some (unsignedZero negative rounded (scale - dropped))
    else if scale = dropped then none
    else some (unsignedZero negative (divEven rounded 10) (scale - dropped - 1))

/-! ### Arithmetic -/

/-- Whether the decimal is a zero. -/
def isZero (d : Decimal96) : Bool :=
  d.coefficient == 0

/-- The coefficient with its sign, at a scale not below the decimal's own. -/
def signedAt (scale : Nat) (d : Decimal96) : Int :=
  let size : Int := (d.coefficient * tenPow (scale - d.scale) : Nat)
  if d.negative then -size else size

/-- Sum: exact at the larger scale, then fitted. A zero term leaves the other one as it is. Terms
that cancel leave a positive zero, but small terms (below `2 ^ 32`) a zero with the sign of the
first. -/
def add? (a b : Decimal96) : Option Decimal96 :=
  if a.isZero then some b
  else if b.isZero then some a
  else
    let scale := max a.scale b.scale
    let sum := a.signedAt scale + b.signedAt scale
    if sum = 0 then
      some ⟨a.negative && decide ((a.signedAt scale).natAbs < twoPow 32), 0, scale⟩
    else fit? (decide (sum < 0)) sum.natAbs scale

/-- Removes zeros from the end of the digits after the point, at most `fuel` of them. -/
def stripZeros : Nat → Decimal96 → Decimal96
  | 0, d => d
  | fuel + 1, d =>
    if d.scale ≠ 0 ∧ d.coefficient % 10 = 0 then
      stripZeros fuel ⟨d.negative, d.coefficient / 10, d.scale - 1⟩
    else d

/-- The number of digits, at most `fuel`, that the quotient of `num` by `den` can be extended by
and still fit. -/
def extraDigits (num den : Nat) : Nat → Nat
  | 0 => 0
  | fuel + 1 =>
    if num * tenPow (fuel + 1) / den < coefficientBound then fuel + 1
    else extraDigits num den fuel

/-- Quotient by a positive count. An exact quotient keeps the scale. Any other is extended to as
many digits as fit, rounded, a half going to the even digit, and written without zeros at the
end. -/
def divNat? (a : Decimal96) (count : Nat) : Option Decimal96 :=
  if count = 0 then none
  else if a.isZero then some zero
  else if a.coefficient % count = 0 then some ⟨a.negative, a.coefficient / count, a.scale⟩
  else
    let extra := extraDigits a.coefficient count (maxScale - a.scale)
    let scale := a.scale + extra
    let rounded := divEven (a.coefficient * tenPow extra) count
    if rounded < coefficientBound then
      some ((unsignedZero a.negative rounded scale).stripZeros scale)
    else if scale = 0 then none
    else some ((unsignedZero a.negative (divEven rounded 10) (scale - 1)).stripZeros scale)

/-- Rounds to at most `places` digits after the point, a half going away from zero. A decimal with
no more places than that stays as it is written. -/
def roundPlaces (places : Nat) (d : Decimal96) : Decimal96 :=
  if d.scale ≤ places then d
  else unsignedZero d.negative (divAway d.coefficient (tenPow (d.scale - places))) places

/-! ### Reporting -/

/-- The 64-bit number reported for a decimal. The whole part and the fraction are converted apart
and added, and the sum is rounded to the decimal's own scale; the sign comes last. -/
def toBinary64 (d : Decimal96) : Binary64 :=
  if d.scale = 0 then
    Binary64.ofRatio (d.negative && d.coefficient != 0) d.coefficient 1
  else
    let power := tenPow d.scale
    let whole := Binary64.ofNat (d.coefficient / power)
    let fraction := (Binary64.ofNat (d.coefficient % power)).div (Binary64.ofNat power)
    let size :=
      if fraction.isZero then whole
      else
        let step := Binary64.ofNat power
        (((whole.add fraction).mul step).roundAway).div step
    if d.negative then size.neg else size

end Decimal96

end Registrar
