import Registrar.Number.Decimal
import Registrar.Number.Power
import Registrar.Text.Blank
import Registrar.Time.Calendar

/-!
# Points in time

A timestamp is a day, a second of that day and a fraction of a second in nanoseconds, in coordinated
universal time. A leap second is the second before it with a fraction of one second and more.

The text of a timestamp is the usual `2001-02-03T04:05:06.500Z`, with as many groups of three digits
after the point as are needed. Reading is more liberal: single digits, blanks between the parts, any
offset from universal time.

## Main definitions

* `Timestamp` — a point in time.
* `Timestamp.text` — writes it.
* `Timestamp.read`, `Timestamp.ofText?` — read it; `TimestampFault` says why a text is none.
-/

namespace Registrar

/-- A point in time, in coordinated universal time. -/
structure Timestamp where
  /-- Days since the first of January 1970. -/
  day : Int
  /-- Seconds of the day. -/
  second : Nat
  /-- Nanoseconds of the second; a billion and more inside a leap second. -/
  nano : Nat
deriving DecidableEq, Inhabited, Repr

namespace Timestamp

/-! ### Writing -/

/-- A number with zeros in front up to the given width. -/
def padded (width n : Nat) : List Char :=
  let digits := Nat.toDigits 10 n
  List.replicate (width - digits.length) '0' ++ digits

/-- A year; outside of four digits it carries a sign. -/
def yearText (year : Int) : List Char :=
  if 0 ≤ year ∧ year ≤ 9999 then padded 4 year.toNat
  else (if year < 0 then '-' else '+') :: padded 4 year.natAbs

/-- The fraction of a second, in groups of three digits. -/
def fractionText (nano : Nat) : List Char :=
  if nano = 0 then []
  else if nano % 1000000 = 0 then '.' :: padded 3 (nano / 1000000)
  else if nano % 1000 = 0 then '.' :: padded 6 (nano / 1000)
  else '.' :: padded 9 nano

/-- The text of a timestamp. -/
def text (t : Timestamp) : String :=
  let (year, month, day) := dateOfDays t.day
  let leap := t.nano / 1000000000
  String.ofList
    (yearText year ++ '-' :: padded 2 month ++ '-' :: padded 2 day ++ 'T' ::
      padded 2 (t.second / 3600) ++ ':' :: padded 2 (t.second / 60 % 60) ++ ':' ::
      padded 2 (t.second % 60 + leap) ++ fractionText (t.nano % 1000000000) ++ ['Z'])

/-! ### Reading -/

/-- Why a text is no timestamp. -/
inductive TimestampFault where
  /-- Another character is expected. -/
  | unexpectedCharacter
  /-- The text ends too early. -/
  | tooShort
  /-- The text goes on after its end. -/
  | tooLong
  /-- A part is too large or too small, or the day is not in the calendar. -/
  | outOfRange
  /-- The offset leads out of the years that timestamps have. -/
  | unreachable
deriving DecidableEq, Repr

/-- The text of a fault. -/
def TimestampFault.message : TimestampFault → String
  | unexpectedCharacter => "input contains invalid characters"
  | tooShort => "premature end of input"
  | tooLong => "trailing input"
  | outOfRange => "input is out of range"
  | unreachable => "no possible date and time matching input"

/-- The value of some of the digits at the front of a text, which must not be empty. -/
def scanDigits (digits text : List Char) : Except TimestampFault (Nat × List Char) :=
  match digits, text with
  | [], [] => .error .tooShort
  | [], _ => .error .unexpectedCharacter
  | digits, text => .ok (natOfDigits digits, text.drop digits.length)

/-- A number of at most `width` digits, after blanks. -/
def scanNumber (width : Nat) (text : List Char) : Except TimestampFault (Nat × List Char) :=
  let text := trimLeft text
  scanDigits ((text.take width).takeWhile isDigit) text

/-- A number of at most two digits within bounds, after blanks. -/
def scanWithin (low high : Nat) (text : List Char) : Except TimestampFault (Nat × List Char) := do
  let (n, rest) ← scanNumber 2 text
  if n < low ∨ high < n then throw .outOfRange
  return (n, rest)

/-- Years have to fit into this many bits before they are looked at. -/
def yearBits : Nat := 32

/-- The number of a year: at most four digits, or any number of digits after a sign. -/
def scanYearNumber (text : List Char) : Except TimestampFault (Int × List Char) :=
  match trimLeft text with
  | '-' :: rest => do
    let (n, rest) ← scanDigits (rest.takeWhile isDigit) rest
    return (-(n : Int), rest)
  | '+' :: rest => do
    let (n, rest) ← scanDigits (rest.takeWhile isDigit) rest
    return ((n : Int), rest)
  | rest => do
    let (n, rest) ← scanNumber 4 rest
    return ((n : Int), rest)

/-- A year that fits into the bits years have. -/
def scanYear (text : List Char) : Except TimestampFault (Int × List Char) := do
  let (year, rest) ← scanYearNumber text
  let bound : Int := twoPow (yearBits - 1)
  if year < -bound ∨ bound ≤ year then throw .outOfRange
  return (year, rest)

/-- The given character, after blanks. -/
def scanMark (mark : Char) (text : List Char) : Except TimestampFault (List Char) :=
  match trimLeft text with
  | c :: rest => if c = mark then .ok rest else .error .unexpectedCharacter
  | [] => .error .tooShort

/-- The fraction of a second, cut to nanoseconds. -/
def scanFraction : List Char → Except TimestampFault (Nat × List Char)
  | '.' :: rest => do
    let kept := (rest.take 9).takeWhile isDigit
    let (n, rest) ← scanDigits kept rest
    return (n * tenPow (9 - kept.length), rest.dropWhile isDigit)
  | rest => .ok (0, rest)

/-- Two digits. -/
def scanPair : List Char → Except TimestampFault (Nat × List Char)
  | a :: b :: rest =>
    if isDigit a && isDigit b then .ok (natOfDigits [a, b], rest) else .error .unexpectedCharacter
  | [a] => .error (if a.utf8Size = 1 then .tooShort else .unexpectedCharacter)
  | [] => .error .tooShort

/-- Hours and minutes of an offset, in minutes. -/
def scanOffsetSize (text : List Char) : Except TimestampFault (Int × List Char) := do
  let (hours, rest) ← scanPair text
  let (minutes, rest) ← scanPair (rest.dropWhile fun c => c == ':' || isWhiteSpace c)
  if 60 ≤ minutes then throw .outOfRange
  return ((hours : Int) * 60 + minutes, rest)

/-- The sign before the size of an offset: a hyphen or a minus sign for a negative one. -/
def offsetSign? (c : Char) : Option Int :=
  if c = '+' then some 1 else if c = '-' ∨ c.toNat = 0x2212 then some (-1) else none

/-- The offset from universal time, in minutes. -/
def scanOffset (text : List Char) : Except TimestampFault (Int × List Char) :=
  if (text.take 3).map Char.toUpper = ['U', 'T', 'C'] then .ok (0, text.drop 3)
  else
    match text with
    | [] => .error .tooShort
    | c :: rest =>
      if c = 'Z' ∨ c = 'z' then .ok (0, rest)
      else
        match offsetSign? c with
        | some sign => (scanOffsetSize rest).map fun (size, rest) => (sign * size, rest)
        | none => .error .unexpectedCharacter

/-- Whether timestamps have this year. -/
def isYear (year : Int) : Bool :=
  -262143 ≤ year && year ≤ 262142

/-- The mark between date and time. -/
def scanDateEnd : List Char → Except TimestampFault (List Char)
  | c :: rest => if c = 'T' ∨ c = 't' ∨ c = ' ' then .ok rest else .error .unexpectedCharacter
  | [] => .error .tooShort

/-- The parts of a timestamp as they are written, with the offset in minutes. -/
structure Parts where
  year : Int
  month : Nat
  day : Nat
  hour : Nat
  minute : Nat
  second : Nat
  nano : Nat
  offset : Int
deriving DecidableEq, Repr

/-- Reads the parts of a timestamp, each within its bounds. -/
def scanParts (text : List Char) : Except TimestampFault (Parts × List Char) := do
  let (year, rest) ← scanYear text
  let (month, rest) ← scanWithin 1 12 (← scanMark '-' rest)
  let (day, rest) ← scanWithin 1 31 (← scanMark '-' rest)
  let (hour, rest) ← scanWithin 0 23 (← scanDateEnd rest)
  let (minute, rest) ← scanWithin 0 59 (← scanMark ':' rest)
  let (second, rest) ← scanWithin 0 60 (← scanMark ':' rest)
  let (nano, rest) ← scanFraction rest
  let (offset, rest) ← scanOffset (trimLeft rest)
  return (⟨year, month, day, hour, minute, second, nano, offset⟩, trimLeft rest)

/-- The timestamp with the given parts, of which the year and the day may not be in the calendar and
the offset may be too large. -/
def ofParts (parts : Parts) : Except TimestampFault Timestamp :=
  if !isYear parts.year || daysInMonth parts.year parts.month < parts.day ||
      24 * 60 ≤ parts.offset.natAbs then .error .outOfRange
  else
    -- the sixtieth second is a fraction of the one before
    let leap := parts.second / 60
    let localMinutes := daysOfDate parts.year parts.month parts.day * 1440 + parts.hour * 60 +
      parts.minute - parts.offset
    let utcDay := Int.fdiv localMinutes 1440
    let minutes := (localMinutes - utcDay * 1440).toNat
    if !isYear (dateOfDays utcDay).1 then .error .unreachable
    else .ok ⟨utcDay, minutes * 60 + (parts.second - leap), parts.nano + leap * 1000000000⟩

/-- Reads a timestamp. -/
def read (text : List Char) : Except TimestampFault Timestamp := do
  let (parts, rest) ← scanParts text
  if rest.isEmpty then ofParts parts else .error .tooLong

/-- The timestamp of a text, if it is one. -/
def ofText? (text : String) : Option Timestamp :=
  (read text.toList).toOption

end Timestamp

end Registrar
