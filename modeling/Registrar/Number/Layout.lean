import Registrar.Number.Decimal
import Registrar.Number.Shortest

/-!
# Texts of numbers

Three ways to write a number. The plain text has the fewest digits that lead back to the number
and never an exponent; it is what cells, tables and messages show. The text inside JSON documents
has the same digits, always a point or an exponent, and an exponent for very large and very small
sizes. The fixed text has a given count of places and rounds the exact binary value.

## Main definitions

* `Binary64.plainDecimal`, `Binary64.plainText` — the plain text and the decimal it writes.
* `Binary64.jsonText` — the text of a finite number in a JSON document.
* `Binary64.fixedText` — a fixed count of places.
-/

namespace Registrar

/-- The value as a decimal without an exponent. -/
def Scientific.toDecimal (s : Scientific) (negative : Bool) : Decimal :=
  if 0 ≤ s.exponent then ⟨negative, s.coefficient * tenPow s.exponent.toNat, 0⟩
  else ⟨negative, s.coefficient, (-s.exponent).toNat⟩

namespace Binary64

/-- The decimal with the fewest digits that leads back to the finite number `x`, halves going
up. -/
def plainDecimal (x : Binary64) : Decimal :=
  (x.shortest .up).toDecimal x.negative

/-- Writes the sign in front of a text. -/
def signed (negative : Bool) (text : String) : String :=
  if negative then "-" ++ text else text

/-- The text of a number with the fewest digits and no exponent. -/
def plainText (x : Binary64) : String :=
  if x.isNaN then "NaN"
  else if x.isFinite then x.plainDecimal.text
  else signed x.negative "inf"

/-- How numbers are written in JSON documents. -/
structure JsonLayout where
  /-- Sizes of at least `10 ^ (-smallest)` are written without an exponent. -/
  smallest : Nat
  /-- Sizes below `10 ^ largest` are written without an exponent. -/
  largest : Nat
  /-- Which of two equally near decimals is written. -/
  tie : Tie

/-- Exponents start below `0.00001` and at `10000000000000000`. -/
def jsonLayout : JsonLayout := ⟨5, 16, .even⟩

/-- The text of a finite number in a JSON document. The digits are written with a point, `.0` at
least, or with one digit before the point and a signed exponent. -/
def jsonText (x : Binary64) : String :=
  let s := x.shortest jsonLayout.tie
  let digits := Nat.toDigits 10 s.coefficient
  -- the size is `0.digits · 10 ^ point`
  let point : Int := digits.length + s.exponent
  let positional := s.coefficient = 0 ∨
    (-(jsonLayout.smallest : Int) < point ∧ point ≤ jsonLayout.largest)
  if positional then
    let d := s.toDecimal x.negative
    if d.scale = 0 then d.text ++ ".0" else d.text
  else
    let fraction := digits.drop 1
    let tail := if fraction.isEmpty then [] else '.' :: fraction
    let power := point - 1
    let sign := if power < 0 then '-' else '+'
    signed x.negative
      (String.ofList (digits.take 1 ++ tail ++ 'e' :: sign :: Nat.toDigits 10 power.natAbs))

/-- The text of a number with exactly `places` digits after the point. The binary value is rounded
exactly, a half going to the even digit. -/
def fixedText (places : Nat) (x : Binary64) : String :=
  if x.isNaN then "NaN"
  else if x.isFinite then
    (Decimal.mk x.negative (divEven (x.units * tenPow places) unitsPerOne) places).text
  else signed x.negative "inf"

end Binary64

end Registrar
