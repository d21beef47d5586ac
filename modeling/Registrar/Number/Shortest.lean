import Registrar.Number.Binary64

/-!
# The fewest digits that lead back to a number

Reading a decimal rounds it to the nearest number, so every number is the image of a whole
interval of decimals. Its shortest decimal is the one in that interval with the fewest digits and,
among those, the one nearest to the number. A number can lie halfway between two such decimals;
`Tie` says which of them is taken.

The search goes from coarse grids of decimals to fine ones. On each grid only the two neighbours
of the number have to be looked at: if any point of the grid lies in the interval, one of them
does.

## Main definitions

* `Scientific` — whole digits times a power of ten.
* `Binary64.shortest` — the shortest decimal of a finite number.
-/

namespace Registrar

/-- The value `coefficient · 10 ^ exponent`. -/
structure Scientific where
  coefficient : Nat
  exponent : Int
deriving DecidableEq, Inhabited, Repr

/-- Which of two equally near decimals is taken: the larger one, or the one with the even digit. -/
inductive Tie where
  | up
  | even
deriving DecidableEq, Repr

namespace Scientific

/-- Moves zeros from the end of the digits into the exponent, at most `fuel` of them. -/
def strip : Nat → Scientific → Scientific
  | 0, s => s
  | fuel + 1, s =>
    if s.coefficient ≠ 0 ∧ s.coefficient % 10 = 0 then
      strip fuel ⟨s.coefficient / 10, s.exponent + 1⟩
    else s

end Scientific

namespace Binary64

/-- The interval of sizes that are read back as `x`, in quarters of the last binary digit. The
gap below a power of two is half as wide as the one above. -/
structure Neighbourhood where
  /-- Lower end. -/
  low : Nat
  /-- The number itself. -/
  middle : Nat
  /-- Upper end. -/
  high : Nat
  /-- Whether the ends belong to the interval. -/
  closed : Bool
  /-- A quarter of the last binary digit is `2 ^ scale` units of `2 ^ (-1076)`. -/
  scale : Nat
deriving Repr

/-- The interval of sizes that are read back as `x`. -/
def neighbourhood (x : Binary64) : Neighbourhood :=
  let m := x.significand
  { low := if m = twoPow 52 ∧ 0 < x.exponent then 4 * m - 1 else 4 * m - 2
    middle := 4 * m
    high := 4 * m + 2
    closed := m % 2 == 0
    scale := x.exponent }

/-- Whether the ratio `num / den` lies in the interval. -/
def Neighbourhood.contains (n : Neighbourhood) (num den : Nat) : Bool :=
  let quarter := den * twoPow n.scale
  let size := num * twoPow 1076
  if n.closed then decide (n.low * quarter ≤ size ∧ size ≤ n.high * quarter)
  else decide (n.low * quarter < size ∧ size < n.high * quarter)

/-- A power of ten as a ratio: times `times`, divided by `divisor`. -/
def powerOfTen (exponent : Int) : Nat × Nat :=
  if 0 ≤ exponent then (tenPow exponent.toNat, 1) else (1, tenPow (-exponent).toNat)

/-- The decimal on the grid of step `10 ^ exponent` that is read back as the number, if any: of
two, the nearer one. -/
def gridHit? (tie : Tie) (n : Neighbourhood) (exponent : Int) : Option Nat :=
  let (times, divisor) := powerOfTen exponent
  -- one step of the grid and the quarter digit, both as multiples of a common unit
  let step := times * twoPow 1076
  let quarter := divisor * twoPow n.scale
  let below := n.middle * quarter / step
  let above := below + 1
  let inside (c : Nat) : Bool := n.contains (c * times) divisor
  let down := n.middle * quarter - below * step
  let up := above * step - n.middle * quarter
  match inside below, inside above with
  | false, false => none
  | true, false => some below
  | false, true => some above
  | true, true =>
    if down < up then some below
    else if up < down then some above
    else match tie with
      | .up => some above
      | .even => some (if below % 2 = 0 then below else above)

/-- Tries grids from coarse to fine. Eighteen digits always suffice, so the bound is never met. -/
def searchGrids (tie : Tie) (n : Neighbourhood) : Nat → Int → Scientific
  | 0, exponent => ⟨0, exponent⟩
  | fuel + 1, exponent =>
    match gridHit? tie n exponent with
    | some c => ⟨c, exponent⟩
    | none => searchGrids tie n fuel (exponent - 1)

/-- The shortest decimal that is read back as the finite number `x`, without the sign. The first
grid tried is just coarser than the number: `30103 / 100000` is the logarithm of two. -/
def shortest (tie : Tie) (x : Binary64) : Scientific :=
  if x.isZero then ⟨0, 0⟩
  else
    let log2 : Int := (x.units.log2 : Int) - 1074
    (searchGrids tie x.neighbourhood 24 (log2 * 30103 / 100000 + 1)).strip 24

end Binary64

end Registrar
