/-!
# Decimals as written

A decimal is a sign, a whole number of digits and the count of those digits that stand after the
point, so `1.50` and `1.5` are two decimals of one value. It is what number texts are read into
and printed from.

## Main definitions

* `Decimal` — a decimal; `Decimal.text` writes it without an exponent.
* `Decimal.ofText?` — reads such a text back.
-/

namespace Registrar

/-- The decimal `± coefficient / 10 ^ scale`, as written with `scale` digits after the point. -/
structure Decimal where
  negative : Bool
  coefficient : Nat
  scale : Nat
deriving DecidableEq, Inhabited, Repr

/-- The value of a decimal digit. -/
def digitValue? (c : Char) : Option Nat :=
  if '0' ≤ c ∧ c ≤ '9' then some (c.toNat - '0'.toNat) else none

/-- Whether the character is a decimal digit. -/
def isDigit (c : Char) : Bool :=
  decide ('0' ≤ c ∧ c ≤ '9')

/-- The number a row of digits stands for, most significant digit first. -/
def natOfDigits (digits : List Char) : Nat :=
  digits.foldl (fun n c => 10 * n + (c.toNat - '0'.toNat)) 0

/-- The number a text of digits stands for; `none` if it is empty or holds anything else. -/
def natOfText? (digits : List Char) : Option Nat :=
  if digits.isEmpty || !digits.all isDigit then none else some (natOfDigits digits)

namespace Decimal

/-- The digits of the coefficient, with enough zeros in front to have one before the point. -/
def paddedDigits (d : Decimal) : List Char :=
  let digits := Nat.toDigits 10 d.coefficient
  List.replicate (d.scale + 1 - digits.length) '0' ++ digits

/-- The text without the sign. -/
def unsignedText (d : Decimal) : List Char :=
  if d.scale = 0 then d.paddedDigits
  else
    let whole := d.paddedDigits.length - d.scale
    d.paddedDigits.take whole ++ '.' :: d.paddedDigits.drop whole

/-- Writes a decimal without an exponent and with exactly `scale` digits after the point. -/
def text (d : Decimal) : String :=
  String.ofList (if d.negative then '-' :: d.unsignedText else d.unsignedText)

/-- Splits a sign off the front of a number text. -/
def splitSign : List Char → Bool × List Char
  | '-' :: rest => (true, rest)
  | '+' :: rest => (false, rest)
  | rest => (false, rest)

/-- Reads digits with at most one point among them, after an optional sign. -/
def ofText? (text : String) : Option Decimal :=
  let (negative, rest) := splitSign text.toList
  let whole := rest.takeWhile isDigit
  match rest.dropWhile isDigit with
  | [] => if whole.isEmpty then none else some ⟨negative, natOfDigits whole, 0⟩
  | '.' :: fraction =>
    if fraction.all isDigit && !(whole.isEmpty && fraction.isEmpty) then
      some ⟨negative, natOfDigits (whole ++ fraction), fraction.length⟩
    else none
  | _ => none

end Decimal

end Registrar
