import Registrar.Number.Binary64
import Registrar.Number.Decimal

/-!
# Reading numbers

A number text is an optional sign, digits with at most one point among them, and an optional power
of ten; or one of the words for infinity and not-a-number, in any case. Its value is the number
nearest to the decimal, a half going to the even pattern.

## Main definitions

* `Binary64.ofScientific` — the number nearest to digits times a power of ten.
* `Binary64.ofText?` — reads a number text.
-/

namespace Registrar

/-- The ASCII capital letters made small. -/
def asciiLower (c : Char) : Char :=
  if 'A' ≤ c ∧ c ≤ 'Z' then Char.ofNat (c.toNat + 32) else c

namespace Binary64

/-- The number nearest to `± coefficient · 10 ^ exponent`. Sizes far outside the range of finite
numbers are settled by the count of digits, so that no huge power is computed. -/
def ofScientific (negative : Bool) (coefficient : Nat) (exponent : Int) : Binary64 :=
  if coefficient = 0 then ofMagnitude negative 0
  else
    let point : Int := (Nat.toDigits 10 coefficient).length + exponent
    if 310 < point then infinity negative
    else if point < -330 then ofMagnitude negative 0
    else if 0 ≤ exponent then ofRatio negative (coefficient * tenPow exponent.toNat) 1
    else ofRatio negative coefficient (tenPow (-exponent).toNat)

/-- The exponent after the mark, with an optional sign. -/
def exponentOfText? (text : List Char) : Option Int :=
  let (negative, digits) := Decimal.splitSign text
  (natOfText? digits).map fun n => if negative then -(n : Int) else n

/-- The words that stand for infinity and not-a-number. -/
def ofWord? (negative : Bool) (word : List Char) : Option Binary64 :=
  match String.ofList (word.map asciiLower) with
  | "inf" => some (infinity negative)
  | "infinity" => some (infinity negative)
  | "nan" => some (notANumber negative)
  | _ => none

/-- Digits, a fraction and an exponent, without the sign. -/
def ofUnsignedText? (negative : Bool) (text : List Char) : Option Binary64 :=
  let whole := text.takeWhile isDigit
  let rest := text.dropWhile isDigit
  let (fraction, rest) : List Char × List Char :=
    match rest with
    | '.' :: rest => (rest.takeWhile isDigit, rest.dropWhile isDigit)
    | rest => ([], rest)
  if whole.isEmpty && fraction.isEmpty then none
  else
    let exponent? : Option Int :=
      match rest with
      | [] => some 0
      | mark :: rest => if mark = 'e' ∨ mark = 'E' then exponentOfText? rest else none
    exponent?.map fun exponent =>
      ofScientific negative (natOfDigits (whole ++ fraction)) (exponent - fraction.length)

/-- Reads a number text. -/
def ofText? (text : String) : Option Binary64 :=
  let (negative, rest) := Decimal.splitSign text.toList
  match ofUnsignedText? negative rest with
  | some x => some x
  | none => ofWord? negative rest

end Binary64

end Registrar
