import Registrar.Json.Basic
import Registrar.Number.Stepwise

/-!
# Reading JSON texts

A text is read by recursive descent. Each reader takes the characters that are left and returns what
it read with the rest. Arrays and objects may be nested 127 deep. Every step uses up a character, so
the length of the text bounds the number of steps.

## Main definitions

* `Json.parseMembers?` — reads a text, with the members of objects as they are written.
* `Json.parse?` — reads a text into canonical form.
* `Json.parseFirst?` — reads the value at the front of a text.
-/

namespace Registrar

namespace Json

/-- The characters that may stand between tokens. -/
def isBlank (c : Char) : Bool :=
  c == ' ' || c == '\n' || c == '\t' || c == '\r'

/-- The text after the blanks at its front. -/
def skipBlank (text : List Char) : List Char :=
  text.dropWhile isBlank

/-! ### Strings -/

/-- The value of a hexadecimal digit. -/
def hexValue? (c : Char) : Option Nat :=
  if '0' ≤ c ∧ c ≤ '9' then some (c.toNat - 48)
  else if 'a' ≤ c ∧ c ≤ 'f' then some (c.toNat - 87)
  else if 'A' ≤ c ∧ c ≤ 'F' then some (c.toNat - 55)
  else none

/-- The code unit written as four hexadecimal digits. -/
def scanUnit : List Char → Option (Nat × List Char)
  | a :: b :: c :: d :: rest => do
    let a ← hexValue? a
    let b ← hexValue? b
    let c ← hexValue? c
    let d ← hexValue? d
    some (((a * 16 + b) * 16 + c) * 16 + d, rest)
  | _ => none

/-- The character written by the code units that follow. A unit from the upper surrogate range must
be followed by one from the lower range, and together they write one character. -/
def scanUnits (text : List Char) : Option (Char × List Char) := do
  let (unit, rest) ← scanUnit text
  if 0xD800 ≤ unit ∧ unit < 0xDC00 then
    match rest with
    | '\\' :: 'u' :: rest =>
      let (low, rest) ← scanUnit rest
      if 0xDC00 ≤ low ∧ low < 0xE000 then
        some (Char.ofNat (0x10000 + (unit - 0xD800) * 0x400 + (low - 0xDC00)), rest)
      else none
    | _ => none
  else if 0xDC00 ≤ unit ∧ unit < 0xE000 then none
  else some (Char.ofNat unit, rest)

/-- The character written after a backslash. -/
def scanEscape : List Char → Option (Char × List Char)
  | '"' :: rest => some ('"', rest)
  | '\\' :: rest => some ('\\', rest)
  | '/' :: rest => some ('/', rest)
  | 'b' :: rest => some ('\x08', rest)
  | 'f' :: rest => some ('\x0c', rest)
  | 'n' :: rest => some ('\n', rest)
  | 'r' :: rest => some ('\r', rest)
  | 't' :: rest => some ('\t', rest)
  | 'u' :: rest => scanUnits rest
  | _ => none

/-- The characters of a string up to its closing quote. -/
def scanString : Nat → List Char → Option (List Char × List Char)
  | 0, _ => none
  | _ + 1, [] => none
  | fuel + 1, c :: rest =>
    if c = '"' then some ([], rest)
    else if c = '\\' then do
      let (c, rest) ← scanEscape rest
      let (cs, rest) ← scanString fuel rest
      some (c :: cs, rest)
    else if c.toNat < 0x20 then none
    else do
      let (cs, rest) ← scanString fuel rest
      some (c :: cs, rest)

/-! ### Numbers -/

/-- The digits before the point: a single zero, or digits that start with no zero. -/
def scanWhole (text : List Char) : Option (List Char × List Char) :=
  let digits := text.takeWhile isDigit
  match digits with
  | [] => none
  | ['0'] => some (digits, text.drop 1)
  | '0' :: _ => none
  | _ => some (digits, text.dropWhile isDigit)

/-- The digits after the point, if there is a point; then there must be digits. -/
def scanFraction : List Char → Option (Option (List Char) × List Char)
  | '.' :: rest =>
    let digits := rest.takeWhile isDigit
    if digits.isEmpty then none else some (some digits, rest.dropWhile isDigit)
  | rest => some (none, rest)

/-- The exponent, if there is a mark; then there must be digits. -/
def scanExponent : List Char → Option (Option Int × List Char)
  | [] => some (none, [])
  | mark :: rest =>
    if mark = 'e' ∨ mark = 'E' then
      let (negative, rest) := Decimal.splitSign rest
      let digits := rest.takeWhile isDigit
      if digits.isEmpty then none
      else
        let size : Int := natOfDigits digits
        some (some (if negative then -size else size), rest.dropWhile isDigit)
    else some (none, mark :: rest)

/-- A whole number of 64 bits: exact, unless it is too small. The zero with a sign has no whole
counterpart. -/
def ofDigits (negative : Bool) (n : Nat) : Json :=
  if negative then
    if n ≠ 0 ∧ n ≤ twoPow 63 then integer (-(n : Int)) else real (Binary64.ofNat n).neg
  else integer n

/-- What the parts of a number stand for; nothing if it is too large to be finite. -/
def ofParts? (negative : Bool) (whole : List Char) (fraction : Option (List Char))
    (exponent : Option Int) : Option Json :=
  if fraction.isNone && exponent.isNone && decide (natOfDigits whole < twoPow 64) then
    some (ofDigits negative (natOfDigits whole))
  else
    (Binary64.ofDigits? negative whole (fraction.getD []) (exponent.getD 0)).map real

/-- Splits a minus sign off the front of a number. -/
def splitMinus : List Char → Bool × List Char
  | '-' :: rest => (true, rest)
  | rest => (false, rest)

/-- A number. One too large to be finite is refused. -/
def scanNumber (text : List Char) : Option (Json × List Char) := do
  let (negative, rest) := splitMinus text
  let (whole, rest) ← scanWhole rest
  let (fraction, rest) ← scanFraction rest
  let (exponent, rest) ← scanExponent rest
  let value ← ofParts? negative whole fraction exponent
  some (value, rest)

/-! ### Values -/

mutual

/-- A value, after blanks; `depth` more levels of nesting are allowed. -/
def scanValue : Nat → Nat → List Char → Option (Json × List Char)
  | 0, _, _ => none
  | fuel + 1, depth, text =>
    match skipBlank text with
    | 'n' :: 'u' :: 'l' :: 'l' :: rest => some (null, rest)
    | 't' :: 'r' :: 'u' :: 'e' :: rest => some (bool true, rest)
    | 'f' :: 'a' :: 'l' :: 's' :: 'e' :: rest => some (bool false, rest)
    | '"' :: rest => do
      let (cs, rest) ← scanString fuel rest
      some (string (String.ofList cs), rest)
    | '[' :: rest =>
      match depth, skipBlank rest with
      | 0, _ => none
      | _ + 1, ']' :: rest => some (array [], rest)
      | depth + 1, rest => do
        let (items, rest) ← scanItems fuel depth rest
        some (array items, rest)
    | '\x7b' :: rest =>
      match depth, skipBlank rest with
      | 0, _ => none
      | _ + 1, '\x7d' :: rest => some (object [], rest)
      | depth + 1, rest => do
        let (members, rest) ← scanMembers fuel depth rest
        some (object members, rest)
    | rest => scanNumber rest

/-- The items of an array up to its closing bracket; there is at least one. -/
def scanItems : Nat → Nat → List Char → Option (List Json × List Char)
  | 0, _, _ => none
  | fuel + 1, depth, text => do
    let (item, rest) ← scanValue fuel depth text
    match skipBlank rest with
    | ']' :: rest => some ([item], rest)
    | ',' :: rest => do
      let (items, rest) ← scanItems fuel depth rest
      some (item :: items, rest)
    | _ => none

/-- The members of an object up to its closing brace; there is at least one. -/
def scanMembers : Nat → Nat → List Char → Option (List (String × Json) × List Char)
  | 0, _, _ => none
  | fuel + 1, depth, text =>
    match skipBlank text with
    | '"' :: rest => do
      let (name, rest) ← scanString fuel rest
      match skipBlank rest with
      | ':' :: rest => do
        let (value, rest) ← scanValue fuel depth rest
        match skipBlank rest with
        | '\x7d' :: rest => some ([(String.ofList name, value)], rest)
        | ',' :: rest => do
          let (members, rest) ← scanMembers fuel depth rest
          some ((String.ofList name, value) :: members, rest)
        | _ => none
      | _ => none
    | _ => none

end

/-- Arrays and objects may be nested this deep. -/
def nestingLimit : Nat := 127

/-- Reads a value from the front of a text; members stay as written. -/
def parseFront? (text : String) : Option (Json × List Char) :=
  let chars := text.toList
  scanValue (2 * chars.length + 2) nestingLimit chars

/-- Reads a text that holds one value and nothing else but blanks; members stay as written. -/
def parseMembers? (text : String) : Option Json := do
  let (value, rest) ← parseFront? text
  if (skipBlank rest).isEmpty then some value else none

/-- Reads a text into canonical form. -/
def parse? (text : String) : Option Json :=
  (parseMembers? text).map canonical

/-- Reads a value from the front of a text into canonical form; what follows it does not count. -/
def parseFirst? (text : String) : Option Json :=
  (parseFront? text).map fun front => front.1.canonical

end Json

end Registrar
