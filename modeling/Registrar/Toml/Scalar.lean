import Registrar.Json.Parser
import Registrar.Number.Reading
import Registrar.Time.Calendar
import Registrar.Toml.Basic

/-!
# Scalars in settings documents

Texts stand between double quotes, where a backslash starts an escape, or between single quotes,
where everything stands for itself; with three quotes on either side they may span lines. Numbers
may have underscores between digits. Dates and times have fixed widths.

Every reader takes the characters that are left and returns what it read with the rest.

## Main definitions

* `scanText`, `scanBareName` — texts and names without quotes.
* `scanNumber` — whole numbers and others.
* `scanDatetime` — dates and times.
-/

namespace Registrar

namespace Toml

/-! ### Characters -/

/-- Whether a character may stand in a line of text. -/
def isTextChar (c : Char) : Bool :=
  c == '\t' || (' ' ≤ c && c.toNat != 127)

/-- Drops blanks and tabs. -/
def skipBlanks (text : List Char) : List Char :=
  text.dropWhile fun c => c == ' ' || c == '\t'

/-- Drops a line end. -/
def scanNewline : List Char → Option (List Char)
  | '\n' :: rest => some rest
  | '\r' :: '\n' :: rest => some rest
  | _ => none

/-! ### Texts -/

/-- The character of a number of hexadecimal digits. -/
def scanCodePoint (count : Nat) (text : List Char) : Option (Char × List Char) :=
  let digits := text.take count
  if digits.length = count ∧ digits.all (fun c => (Json.hexValue? c).isSome) then
    let n := digits.foldl (fun n c => 16 * n + (Json.hexValue? c).getD 0) 0
    if n.isValidChar then some (Char.ofNat n, text.drop count) else none
  else none

/-- The character written after a backslash. -/
def scanEscape : List Char → Option (Char × List Char)
  | 'b' :: rest => some ('\x08', rest)
  | 'f' :: rest => some ('\x0c', rest)
  | 'n' :: rest => some ('\n', rest)
  | 'r' :: rest => some ('\r', rest)
  | 't' :: rest => some ('\t', rest)
  | '"' :: rest => some ('"', rest)
  | '\\' :: rest => some ('\\', rest)
  | 'u' :: rest => scanCodePoint 4 rest
  | 'U' :: rest => scanCodePoint 8 rest
  | _ => none

/-- A text between double quotes, after the first one. -/
def scanBasic : Nat → List Char → Option (List Char × List Char)
  | 0, _ => none
  | fuel + 1, text =>
    match text with
    | '"' :: rest => some ([], rest)
    | '\\' :: rest => do
      let (c, rest) ← scanEscape rest
      let (cs, rest) ← scanBasic fuel rest
      some (c :: cs, rest)
    | c :: rest =>
      if isTextChar c then do
        let (cs, rest) ← scanBasic fuel rest
        some (c :: cs, rest)
      else none
    | [] => none

/-- A text between single quotes, after the first one. -/
def scanLiteral (text : List Char) : Option (List Char × List Char) :=
  let inside := text.takeWhile fun c => isTextChar c && c != '\''
  match text.dropWhile fun c => isTextChar c && c != '\'' with
  | '\'' :: rest => some (inside, rest)
  | _ => none

/-- Drops line ends and blanks, the first of which must be a line end after blanks. -/
def skipFold (text : List Char) : Option (List Char) :=
  (scanNewline (skipBlanks text)).map skipMore
where
  /-- Drops line ends and blanks. -/
  skipMore : List Char → List Char
    | '\r' :: '\n' :: rest => skipMore rest
    | c :: rest => if c = ' ' ∨ c = '\t' ∨ c = '\n' then skipMore rest else c :: rest
    | [] => []

/-- A text between triples of `quote`, after the first triple. Up to two quotes may stand anywhere
inside it, also right before the last triple. Between double quotes a backslash starts an escape;
before a line end it takes the line end and all blanks and line ends that follow away. -/
def scanLong (quote : Char) : Nat → List Char → Option (List Char × List Char)
  | 0, _ => none
  | fuel + 1, text =>
    let quotes := text.takeWhile (· == quote)
    if 3 ≤ quotes.length then
      if quotes.length ≤ 5 then some (quotes.drop 3, text.drop quotes.length) else none
    else
      match scanNewline text with
      | some rest => do
        let (cs, rest) ← scanLong quote fuel rest
        some ('\n' :: cs, rest)
      | none =>
        match text with
        | [] => none
        | c :: rest =>
          if quote = '"' ∧ c = '\\' then
            match skipFold rest with
            | some rest => scanLong quote fuel rest
            | none => do
              let (c, rest) ← scanEscape rest
              let (cs, rest) ← scanLong quote fuel rest
              some (c :: cs, rest)
          else if isTextChar c then do
            let (cs, rest) ← scanLong quote fuel rest
            some (c :: cs, rest)
          else none

/-- Drops the line end that may follow the first triple of quotes. -/
def skipFirstNewline (text : List Char) : List Char :=
  (scanNewline text).getD text

/-- A text that does not span lines. -/
def scanShortText : List Char → Option (List Char × List Char)
  | '"' :: rest => scanBasic (rest.length + 1) rest
  | '\'' :: rest => scanLiteral rest
  | _ => none

/-- A text. -/
def scanText (text : List Char) : Option (List Char × List Char) :=
  match text with
  | '"' :: '"' :: '"' :: rest => scanLong '"' (rest.length + 1) (skipFirstNewline rest)
  | '\'' :: '\'' :: '\'' :: rest => scanLong '\'' (rest.length + 1) (skipFirstNewline rest)
  | _ => scanShortText text

/-- A name without quotes: letters, digits, hyphens and underscores. -/
def scanBareName (text : List Char) : Option (List Char × List Char) :=
  let isNameChar (c : Char) : Bool := c.isAlphanum || c == '-' || c == '_'
  let name := text.takeWhile isNameChar
  if name.isEmpty then none else some (name, text.dropWhile isNameChar)

/-! ### Numbers -/

/-- Digits with single underscores between them; there is at least one digit. -/
def scanDigits (accepts : Char → Bool) (text : List Char) : Option (List Char × List Char) :=
  let run := text.takeWhile fun c => accepts c || c == '_'
  let rec wellSpaced : List Char → Bool
    | [] => false
    | [c] => c != '_'
    | c :: d :: cs => !(c == '_' && d == '_') && wellSpaced (d :: cs)
  if run.head? != some '_' && wellSpaced run then
    some (run.filter (· != '_'), text.dropWhile fun c => accepts c || c == '_')
  else none

/-- Whole numbers fit 64 bits with a sign. -/
def integer? (value : Int) : Option Toml :=
  if -(twoPow 63 : Int) ≤ value ∧ value < (twoPow 63 : Int) then some (.integer value) else none

/-- A number in digits of the given base, after its mark. -/
def scanBased (base : Nat) (text : List Char) : Option (Toml × List Char) := do
  let accepts (c : Char) : Bool := match Json.hexValue? c with
    | some n => n < base
    | none => false
  let (digits, rest) ← scanDigits accepts text
  let n := digits.foldl (fun n c => base * n + (Json.hexValue? c).getD 0) 0
  some (← integer? n, rest)

/-- The digits after a point, if there is one. -/
def scanFraction : List Char → Option (Option (List Char) × List Char)
  | '.' :: rest => do
    let (digits, rest) ← scanDigits isDigit rest
    some (some digits, rest)
  | rest => some (none, rest)

/-- The exponent, if there is one. -/
def scanExponent : List Char → Option (Option Int × List Char)
  | [] => some (none, [])
  | mark :: rest =>
    if mark = 'e' ∨ mark = 'E' then do
      let (negative, rest) := Decimal.splitSign rest
      let (digits, rest) ← scanDigits isDigit rest
      let size : Int := natOfDigits digits
      some (some (if negative then -size else size), rest)
    else some (none, mark :: rest)

/-- A number in decimal digits, after its sign. A zero in front of other digits is refused, and so
is a number too large to be finite. -/
def scanDecimal (negative : Bool) (text : List Char) : Option (Toml × List Char) := do
  let (whole, rest) ← match text with
    | '0' :: rest => some (['0'], rest)
    | _ => scanDigits isDigit text
  let (fraction, rest) ← scanFraction rest
  let (exponent, rest) ← scanExponent rest
  if fraction.isNone && exponent.isNone then
    let n : Int := natOfDigits whole
    some (← integer? (if negative then -n else n), rest)
  else
    let fraction := fraction.getD []
    let value := Binary64.ofScientific negative (natOfDigits (whole ++ fraction))
      (exponent.getD 0 - fraction.length)
    if value.eq (Binary64.infinity false) then none else some (.real value, rest)

/-- A number. -/
def scanNumber (text : List Char) : Option (Toml × List Char) :=
  let signed := text.head? == some '-' || text.head? == some '+'
  let (negative, rest) := Decimal.splitSign text
  match rest, signed with
  | '0' :: 'x' :: rest, false => scanBased 16 rest
  | '0' :: 'o' :: rest, false => scanBased 8 rest
  | '0' :: 'b' :: rest, false => scanBased 2 rest
  | 'i' :: 'n' :: 'f' :: rest, _ => some (.real (Binary64.infinity negative), rest)
  | 'n' :: 'a' :: 'n' :: rest, _ => some (.real (Binary64.notANumber negative), rest)
  | _, _ => scanDecimal negative rest

/-! ### Dates and times -/

/-- A number of exactly `count` digits, between two bounds. -/
def scanFixed (count least greatest : Nat) (text : List Char) : Option (Nat × List Char) :=
  let digits := text.take count
  if digits.length = count ∧ digits.all isDigit then
    let n := natOfDigits digits
    if least ≤ n ∧ n ≤ greatest then some (n, text.drop count) else none
  else none

/-- Drops the given character. -/
def scanChar (c : Char) : List Char → Option (List Char)
  | d :: rest => if d = c then some rest else none
  | [] => none

/-- Drops a time of day. -/
def scanTime (text : List Char) : Option (List Char) := do
  let (_, rest) ← scanFixed 2 0 23 text
  let (_, rest) ← scanFixed 2 0 59 (← scanChar ':' rest)
  let (_, rest) ← scanFixed 2 0 60 (← scanChar ':' rest)
  match rest with
  | '.' :: fraction =>
    if (fraction.head?.map isDigit).getD false then some (fraction.dropWhile isDigit) else some rest
  | _ => some rest

/-- Drops the offset of a time. -/
def scanOffset (text : List Char) : Option (List Char) :=
  match text with
  | [] => none
  | mark :: rest =>
    if mark = 'Z' ∨ mark = 'z' then some rest
    else if mark = '+' ∨ mark = '-' then do
      let (_, rest) ← scanFixed 2 0 23 rest
      let (_, rest) ← scanFixed 2 0 59 (← scanChar ':' rest)
      some rest
    else none

/-- Drops a date. -/
def scanDate (text : List Char) : Option (List Char) := do
  let (year, rest) ← scanFixed 4 0 9999 text
  let (month, rest) ← scanFixed 2 1 12 (← scanChar '-' rest)
  let (_, rest) ← scanFixed 2 1 (daysInMonth year month) (← scanChar '-' rest)
  some rest

/-- Drops a date, or a date with a time, or one with a time and an offset. -/
def skipDatetime (text : List Char) : Option (List Char) :=
  match scanDate text with
  | none => scanTime text
  | some [] => some []
  | some (mark :: rest) =>
    if mark = 'T' ∨ mark = 't' ∨ mark = ' ' then
      match scanTime rest with
      | some rest => some ((scanOffset rest).getD rest)
      | none => some (mark :: rest)
    else some (mark :: rest)

/-- A date or a time, kept as written. -/
def scanDatetime (text : List Char) : Option (Toml × List Char) := do
  let rest ← skipDatetime text
  some (.datetime (String.ofList (text.take (text.length - rest.length))), rest)

end Toml

end Registrar
