import Registrar.Number.Power
import Registrar.Number.Rounding

/-!
# Numbers of 64 bits

Measures, scores and result cells are binary floating-point numbers of 64 bits. A number is kept
as its bit pattern, because two rules of the library look at the pattern itself: grouping tells
apart exactly those numbers whose patterns differ (up to the sign of zero), and printing finds the
fewest digits that lead back to the pattern.

Every finite number is a whole multiple of `2 ^ (-1074)`. Arithmetic is therefore carried out on
whole numbers of that unit and rounded once, at the end, by `ofRatio`.

## Main definitions

* `Binary64` — a number, by its pattern; `negative` and `magnitude` split the pattern.
* `units` — the size of a finite number in units of `2 ^ (-1074)`.
* `key`, `lt`, `eq` — the numeric order: signed magnitudes, unordered for not-a-number.
* `ofRatio` — the number nearest to a ratio, a half going to the even pattern.
* `add`, `mul`, `div`, `roundAway` — exact results, rounded once.
-/

namespace Registrar

/-- A binary floating-point number of 64 bits, by its bit pattern. -/
structure Binary64 where
  bits : UInt64
deriving DecidableEq, Inhabited, Repr

namespace Binary64

/-! ### The parts of a pattern -/

/-- The pattern without its sign, read as a number. It grows with the size of the number. -/
def magnitude (x : Binary64) : Nat :=
  x.bits.toNat % twoPow 63

/-- Whether the sign bit is set. -/
def negative (x : Binary64) : Bool :=
  decide (twoPow 63 ≤ x.bits.toNat)

/-- The number with the given sign and magnitude. -/
def ofMagnitude (negative : Bool) (magnitude : Nat) : Binary64 :=
  ⟨UInt64.ofNat (magnitude + if negative then twoPow 63 else 0)⟩

/-- The magnitude of infinity; not-a-number lies above it and all finite numbers below. -/
def infiniteMagnitude : Nat := 2047 * twoPow 52

/-- Positive zero. -/
def zero : Binary64 := ⟨0⟩

/-- Infinity of the given sign. -/
def infinity (negative : Bool) : Binary64 :=
  ofMagnitude negative infiniteMagnitude

/-- The quiet not-a-number of the given sign. -/
def notANumber (negative : Bool) : Binary64 :=
  ofMagnitude negative (infiniteMagnitude + twoPow 51)

/-- Whether the pattern stands for no number at all. -/
def isNaN (x : Binary64) : Bool :=
  decide (infiniteMagnitude < x.magnitude)

/-- Whether the number is neither infinite nor not-a-number. -/
def isFinite (x : Binary64) : Bool :=
  decide (x.magnitude < infiniteMagnitude)

/-- Whether the number is a zero of either sign. -/
def isZero (x : Binary64) : Bool :=
  x.magnitude == 0

/-- Changes the sign. -/
def neg (x : Binary64) : Binary64 :=
  ofMagnitude (!x.negative) x.magnitude

/-- Drops the sign. -/
def abs (x : Binary64) : Binary64 :=
  ofMagnitude false x.magnitude

/-! ### The value of a finite number -/

/-- The digits of a finite number: the size is `significand · 2 ^ exponent` units. -/
def significand (x : Binary64) : Nat :=
  if x.magnitude < twoPow 52 then x.magnitude else twoPow 52 + x.magnitude % twoPow 52

/-- The scale of a finite number, zero for the smallest ones. -/
def exponent (x : Binary64) : Nat :=
  x.magnitude / twoPow 52 - 1

/-- The common unit of all finite numbers is one over this power of two. -/
def unitsPerOne : Nat := twoPow 1074

/-- The size of a finite number, in units of `2 ^ (-1074)`. -/
def units (x : Binary64) : Nat :=
  x.significand * twoPow x.exponent

/-- A finite number in signed units. -/
def signedUnits (x : Binary64) : Int :=
  if x.negative then -(x.units : Int) else x.units

/-! ### Order -/

/-- The place of a number in the order: both zeros share one place. -/
def key (x : Binary64) : Int :=
  if x.negative then -(x.magnitude : Int) else x.magnitude

/-- Numeric less-than; not-a-number is less than nothing and above nothing. -/
def lt (x y : Binary64) : Bool :=
  !x.isNaN && !y.isNaN && decide (x.key < y.key)

/-- Numeric equality: the zeros are equal, and not-a-number equals nothing. -/
def eq (x y : Binary64) : Bool :=
  !x.isNaN && !y.isNaN && x.key == y.key

/-- Numeric order where there is one. -/
def compare? (x y : Binary64) : Option Ordering :=
  if x.isNaN || y.isNaN then none else some (compare x.key y.key)

/-- The larger number. Not-a-number gives way to a number, and of two equal numbers the first
stays. -/
def max (x y : Binary64) : Binary64 :=
  if x.isNaN then y else if x.lt y then y else x

/-- The smaller number. Not-a-number gives way to a number, and of two equal numbers the first
stays. -/
def min (x y : Binary64) : Binary64 :=
  if x.isNaN then y else if y.lt x then y else x

/-- The pattern with the sign of zero dropped, which is what tells two numbers apart. -/
def foldZero (x : Binary64) : Binary64 :=
  if x.isZero then zero else x

/-! ### Rounding to a number -/

/-- The number nearest to `± num / den`, a half going to the even pattern. A ratio too large for
any finite number becomes infinity.

The ratio is measured in units; dividing by the power of two that leaves 53 digits gives the
pattern, because patterns of neighbouring scales follow each other without a gap. -/
def ofRatio (negative : Bool) (num den : Nat) : Binary64 :=
  let scaled := num * unitsPerOne
  let scale := (scaled / den).log2 - 52
  ofMagnitude negative
    (Nat.min (scale * twoPow 52 + divEven scaled (den * twoPow scale)) infiniteMagnitude)

/-- The number nearest to a natural number. -/
def ofNat (n : Nat) : Binary64 :=
  ofRatio false n 1

/-- The number nearest to an integer. -/
def ofInt (n : Int) : Binary64 :=
  ofRatio (decide (n < 0)) n.natAbs 1

/-! ### Arithmetic -/

/-- Sum: exact in units, then rounded. A zero sum is positive unless both terms are negative. -/
def add (x y : Binary64) : Binary64 :=
  if x.isNaN || y.isNaN then notANumber false
  else if !x.isFinite then
    if y.isFinite || x.negative == y.negative then x else notANumber false
  else if !y.isFinite then y
  else
    let sum := x.signedUnits + y.signedUnits
    if sum = 0 then ofMagnitude (x.negative && y.negative) 0
    else ofRatio (decide (sum < 0)) sum.natAbs unitsPerOne

/-- Product: exact, then rounded. -/
def mul (x y : Binary64) : Binary64 :=
  let negative := x.negative != y.negative
  if x.isNaN || y.isNaN then notANumber false
  else if !x.isFinite || !y.isFinite then
    if x.isZero || y.isZero then notANumber false else infinity negative
  else ofRatio negative (x.units * y.units) (unitsPerOne * unitsPerOne)

/-- Quotient: exact, then rounded. -/
def div (x y : Binary64) : Binary64 :=
  let negative := x.negative != y.negative
  if x.isNaN || y.isNaN then notANumber false
  else if !x.isFinite then
    if y.isFinite then infinity negative else notANumber false
  else if !y.isFinite then ofMagnitude negative 0
  else if y.isZero then
    if x.isZero then notANumber false else infinity negative
  else ofRatio negative x.units y.units

/-- The nearest whole number, a half going away from zero. -/
def roundAway (x : Binary64) : Binary64 :=
  if x.isFinite then ofRatio x.negative (divAway x.units unitsPerOne) 1 else x

/-- Whether the number is finite and whole. -/
def isWhole (x : Binary64) : Bool :=
  x.isFinite && x.units % unitsPerOne == 0

/-- The integer part of a finite number. -/
def truncate (x : Binary64) : Int :=
  let size : Int := x.units / unitsPerOne
  if x.negative then -size else size

end Binary64

end Registrar
