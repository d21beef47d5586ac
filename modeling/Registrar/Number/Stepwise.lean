import Registrar.Number.Binary64
import Registrar.Number.Decimal

/-!
# Reading numbers step by step

JSON documents are read by a rule that is faster than rounding once. The digits make a whole number
of 64 bits; digits that would not fit any more only count towards the exponent. The whole number is
then made a floating-point number, which is multiplied or divided by a power of ten. Each of these
steps is rounded, so what is read need not be the number nearest to the decimal: of the two numbers
next to `97.33333333333333`, the farther one is read.

## Main definitions

* `Significand` — the digits that fit 64 bits; `Significand.take` takes in more of them.
* `Binary64.scaled?` — a whole number times a power of ten.
* `Binary64.ofDigits?` — the number read from the digits before and after the point.
-/

namespace Registrar

/-- A whole number of 64 bits with the digits that were left when the next one did not fit. -/
structure Significand where
  value : Nat
  left : List Char
deriving DecidableEq, Repr

/-- Takes in digits as long as they fit. -/
def Significand.take (value : Nat) : List Char → Significand
  | [] => ⟨value, []⟩
  | c :: digits =>
    let next := 10 * value + (c.toNat - '0'.toNat)
    if next < twoPow 64 then take next digits else ⟨value, c :: digits⟩

namespace Binary64

/-- The largest power of ten that is multiplied with or divided by in one step. -/
def largestPower : Nat := 308

/-- The number nearest to a power of ten. -/
def powerOfTenNumber (exponent : Nat) : Binary64 :=
  ofNat (tenPow exponent)

/-- Divides by the largest power of ten, again and again, but not when there is nothing left. -/
def shrink : Nat → Binary64 → Binary64
  | 0, x => x
  | steps + 1, x => if x.isZero then x else shrink steps (x.div (powerOfTenNumber largestPower))

/-- A whole number times a power of ten; nothing if it is too large. Exponents below
`-largestPower` take more than one division, and the last one is by what is left. -/
def scaled? (significand : Nat) (exponent : Int) : Option Binary64 :=
  let x := ofNat significand
  if exponent < 0 then
    let places := (-exponent).toNat
    let steps := (places - 1) / largestPower
    some ((shrink steps x).div (powerOfTenNumber (places - steps * largestPower)))
  else if exponent ≤ largestPower then
    let product := x.mul (powerOfTenNumber exponent.toNat)
    if product.isFinite then some product else none
  else if x.isZero then some x
  else none

/-- The number read from the digits before and after the point and an exponent; nothing if it is
too large. Digits before the point that are left over count one place each, those after it none. -/
def ofDigits? (negative : Bool) (whole fraction : List Char) (exponent : Int) :
    Option Binary64 :=
  let before := Significand.take 0 whole
  let after := Significand.take before.value fraction
  let places : Int := fraction.length - after.left.length
  (scaled? after.value (exponent + before.left.length - places)).map fun x =>
    if negative then x.neg else x

/-- Neither of the numbers next to a decimal need be the nearest one. -/
example : ofDigits? false ['9', '7'] (List.replicate 14 '3') 0 = some ⟨0x4058555555555554⟩ ∧
    ofRatio false 9733333333333333 (tenPow 14) = ⟨0x4058555555555555⟩ := by
  decide +kernel

end Binary64

end Registrar
