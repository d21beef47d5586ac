/-!
# Rounding a quotient

The quotient of two natural numbers, rounded to the nearest natural number. Two rules are needed
for quotients that lie halfway between two neighbours: the even neighbour, which binary arithmetic
uses, and the neighbour away from zero, which reported sums and averages use.

## Main definitions

* `divEven num den` — nearest, a half going to the even neighbour.
* `divAway num den` — nearest, a half going up.
-/

namespace Registrar

/-- Rounds `num / den` to the nearest natural number, a half going to the even neighbour. -/
def divEven (num den : Nat) : Nat :=
  let quotient := num / den
  let twice := 2 * (num % den)
  if twice < den then quotient
  else if den < twice then quotient + 1
  else quotient + quotient % 2

/-- Rounds `num / den` to the nearest natural number, a half going up. -/
def divAway (num den : Nat) : Nat :=
  (2 * num + den) / (2 * den)

end Registrar
