import Registrar.Json.Parser
import Registrar.Text.Utf8

/-!
# Why a text is no JSON text

A text that cannot be read is answered with the first reason, and with the place where it shows: a
line and a column, both counted from one, columns in bytes. A reason that shows at a byte which is
still expected to come is placed on that byte; one that shows in a byte already taken is placed on
that one too, and one at the end of the text on its last byte.

Scanning works on the bytes of the text. It takes the same steps as the reader of JSON texts, and
also gives the values, so that readers of documents can say where a document goes wrong.

## Main definitions

* `SyntaxCause` — the reasons.
* `Scan` — a step of scanning.
* `Scan.value` — scans a value; `Json.scanText` scans a text.
* `Json.explain` — the reason and the place for a text that is no JSON text.
-/

namespace Registrar

namespace Json

/-- Why a text is no JSON text. -/
inductive SyntaxCause where
  | endInArray
  | endInObject
  | endInString
  | endInValue
  | expectedColon
  | expectedArrayEnd
  | expectedObjectEnd
  | expectedWord
  | expectedValue
  | invalidEscape
  | invalidNumber
  | numberOutOfRange
  | controlCharacter
  | nameNotString
  | loneSurrogate
  | trailingComma
  | trailingCharacters
  | unfinishedEscape
  | nestedTooDeep
deriving DecidableEq, Repr

/-- The text of a reason. -/
def SyntaxCause.message : SyntaxCause → String
  | endInArray => "EOF while parsing a list"
  | endInObject => "EOF while parsing an object"
  | endInString => "EOF while parsing a string"
  | endInValue => "EOF while parsing a value"
  | expectedColon => "expected `:`"
  | expectedArrayEnd => "expected `,` or `]`"
  | expectedObjectEnd => "expected `,` or `\x7d`"
  | expectedWord => "expected ident"
  | expectedValue => "expected value"
  | invalidEscape => "invalid escape"
  | invalidNumber => "invalid number"
  | numberOutOfRange => "number out of range"
  | controlCharacter => "control character (\\u0000-\\u001F) found while parsing a string"
  | nameNotString => "key must be a string"
  | loneSurrogate => "lone leading surrogate in hex escape"
  | trailingComma => "trailing comma"
  | trailingCharacters => "trailing characters"
  | unfinishedEscape => "unexpected end of hex escape"
  | nestedTooDeep => "recursion limit exceeded"

/-- A reason, and how many bytes of the text come after its place. -/
structure ScanFault where
  message : String
  bytesLeft : Nat
  /-- Whether the place is final. What is wrong with a whole array or object is placed on its end.
  -/
  isPlaced : Bool
deriving DecidableEq, Repr

/-- A step of scanning: takes bytes from the front of the text. -/
abbrev Scan (α : Type) := StateT (List UInt8) (Except ScanFault) α

/-- The byte of an ASCII character. -/
def byteOf (c : Char) : UInt8 := c.toNat.toUInt8

namespace Scan

/-! ### Bytes -/

/-- Fails at the last byte that was taken. -/
def failTaken {α : Type} (message : String) : Scan α := do
  throw ⟨message, (← get).length, true⟩

/-- Fails at the next byte. -/
def failNext {α : Type} (cause : SyntaxCause) : Scan α := do
  throw ⟨cause.message, (← get).length - 1, true⟩

/-- The next byte, which stays. -/
def peek : Scan (Option UInt8) := do
  return (← get).head?

/-- Takes the next byte, if there is one. -/
def next : Scan (Option UInt8) := do
  let bytes ← get
  set bytes.tail
  return bytes.head?

/-- Takes the next byte. -/
def skip : Scan Unit :=
  modify List.tail

/-- Takes blanks, and tells the byte after them. -/
def skipBlanks : Scan (Option UInt8) := do
  modify fun bytes => bytes.dropWhile fun b => b == 32 || b == 10 || b == 9 || b == 13
  peek

/-- Whether a byte is a decimal digit. -/
def isDigitByte (b : UInt8) : Bool :=
  byteOf '0' ≤ b && b ≤ byteOf '9'

/-- Takes digits and returns them. -/
def digits : Scan (List UInt8) := do
  let bytes ← get
  set (bytes.dropWhile isDigitByte)
  return bytes.takeWhile isDigitByte

/-- Takes the rest of a word. -/
def word : List UInt8 → Scan Unit
  | [] => pure ()
  | expected :: rest => do
    match ← next with
    | none => failTaken SyntaxCause.endInValue.message
    | some b => if b = expected then word rest else failTaken SyntaxCause.expectedWord.message

/-! ### Strings -/

/-- The value of four hexadecimal digits. -/
def codeUnit : Scan Nat := do
  let bytes ← get
  if bytes.length < 4 then
    set ([] : List UInt8)
    failTaken SyntaxCause.endInString.message
  else
    set (bytes.drop 4)
    let values := (bytes.take 4).map fun b => hexValue? (Char.ofNat b.toNat)
    if values.all Option.isSome then
      return values.foldl (fun n value => 16 * n + value.getD 0) 0
    else failTaken SyntaxCause.invalidEscape.message

/-- Takes a byte that has to come between the two halves of an escape. -/
def betweenHalves (expected : UInt8) : Scan Unit := do
  match ← next with
  | none => failTaken SyntaxCause.endInString.message
  | some b => if b = expected then pure () else failTaken SyntaxCause.unfinishedEscape.message

/-- The character of an escape with digits. -/
def unicodeEscape : Scan Char := do
  let unit ← codeUnit
  if 0xDC00 ≤ unit ∧ unit < 0xE000 then failTaken SyntaxCause.loneSurrogate.message
  else if 0xD800 ≤ unit ∧ unit < 0xDC00 then
    betweenHalves (byteOf '\\')
    betweenHalves (byteOf 'u')
    let low ← codeUnit
    if 0xDC00 ≤ low ∧ low < 0xE000 then
      return Char.ofNat (0x10000 + (unit - 0xD800) * 0x400 + (low - 0xDC00))
    else failTaken SyntaxCause.loneSurrogate.message
  else return Char.ofNat unit

/-- The character written after a backslash. -/
def escape : Scan Char := do
  match ← next with
  | none => failTaken SyntaxCause.endInString.message
  | some b =>
    if b = byteOf 'u' then unicodeEscape
    else
      match scanEscape [Char.ofNat b.toNat] with
      | some (c, _) => return c
      | none => failTaken SyntaxCause.invalidEscape.message

/-- The bytes of a string up to its closing quote. -/
def stringBytes : Nat → List (List UInt8) → Scan (List UInt8)
  | 0, _ => failTaken SyntaxCause.endInString.message
  | fuel + 1, taken => do
    match ← next with
    | none => failTaken SyntaxCause.endInString.message
    | some b =>
      if b = byteOf '"' then return taken.reverse.flatten
      else if b = byteOf '\\' then do
        let c ← escape
        stringBytes fuel (utf8Bytes (String.singleton c) :: taken)
      else if b < 0x20 then failTaken SyntaxCause.controlCharacter.message
      else stringBytes fuel ([b] :: taken)

/-- A string, after its opening quote. -/
def stringRest : Scan String := do
  return textOfUtf8Lossy (← stringBytes ((← get).length + 1) [])

/-! ### Numbers -/

/-- The greatest exponent that is read to its end. -/
def exponentBound : Nat := twoPow 31

/-- The shortest front of the digits that is too large for an exponent. -/
def excess? (ds : List UInt8) : Option (List UInt8) :=
  ((List.range (ds.length + 1)).map ds.take).find? fun front =>
    exponentBound ≤ natOfDigits (front.map fun b => Char.ofNat b.toNat)

/-- Takes an exponent after its mark. If the number is not zero and the exponent is so large that it
is not even read to its end, the number is out of range. -/
def exponentPart (isZero : Bool) : Scan Unit := do
  skip
  let sign ← peek
  if sign = some (byteOf '+') ∨ sign = some (byteOf '-') then skip
  match ← peek with
  | none => failTaken SyntaxCause.endInValue.message
  | some b =>
    if isDigitByte b then
      let before ← get
      match excess? (← digits) with
      | some front =>
        if !isZero && sign != some (byteOf '-') then
          set (before.drop front.length)
          failTaken SyntaxCause.numberOutOfRange.message
      | none => pure ()
    else
      skip
      failTaken SyntaxCause.invalidNumber.message

/-- Takes a fraction after its point and returns its digits. -/
def fractionPart : Scan (List UInt8) := do
  skip
  let ds ← digits
  if ds.isEmpty then
    match ← peek with
    | some _ => failNext .invalidNumber
    | none => failNext .endInValue
  return ds

/-- Takes the digits before the point. -/
def wholePart : Scan (List UInt8) := do
  match ← next with
  | none => failTaken SyntaxCause.endInValue.message
  | some b =>
    if !isDigitByte b then failTaken SyntaxCause.invalidNumber.message
    else if b = byteOf '0' then
      match ← peek with
      | some d => if isDigitByte d then failNext .invalidNumber else return [b]
      | none => return [b]
    else return b :: (← digits)

/-- A number. -/
def number : Scan Json := do
  let before ← get
  if before.head? = some (byteOf '-') then skip
  let whole ← wholePart
  let mut size := whole
  if (← peek) = some (byteOf '.') then size := size ++ (← fractionPart)
  let mark ← peek
  if mark = some (byteOf 'e') ∨ mark = some (byteOf 'E') then
    exponentPart (size.all fun b => b = byteOf '0')
  let written := before.take (before.length - (← get).length)
  match scanNumber (written.map fun b => Char.ofNat b.toNat) with
  | some (value, _) => return value
  | none => failTaken SyntaxCause.numberOutOfRange.message

/-! ### Values -/

/-- A value that is no array and no object, whose first byte is known; `none` if the byte starts no
such value. -/
def scalar? (first : UInt8) : Scan (Option Json) := do
  if first = byteOf 'n' then
    skip
    word [byteOf 'u', byteOf 'l', byteOf 'l']
    return some null
  else if first = byteOf 't' then
    skip
    word [byteOf 'r', byteOf 'u', byteOf 'e']
    return some (bool true)
  else if first = byteOf 'f' then
    skip
    word [byteOf 'a', byteOf 'l', byteOf 's', byteOf 'e']
    return some (bool false)
  else if first = byteOf '-' ∨ isDigitByte first then return some (← number)
  else if first = byteOf '"' then
    skip
    return some (string (← stringRest))
  else return none

/-- Goes to the next item of an array, if there is one; `isFirst` tells that none has been taken. -/
def nextItem (isFirst : Bool) : Scan Bool := do
  match ← skipBlanks with
  | none => failNext .endInArray
  | some b =>
    if b = byteOf ']' then return false
    else if isFirst then return true
    else if b = byteOf ',' then
      skip
      match ← skipBlanks with
      | none => failNext .endInValue
      | some c => if c = byteOf ']' then failNext .trailingComma else return true
    else failNext .expectedArrayEnd

/-- Takes the end of an array. -/
def arrayEnd : Scan Unit := do
  match ← skipBlanks with
  | none => failNext .endInArray
  | some b =>
    if b = byteOf ']' then skip
    else if b = byteOf ',' then
      skip
      if (← skipBlanks) = some (byteOf ']') then failNext .trailingComma
      else failNext .trailingCharacters
    else failNext .trailingCharacters

/-- Takes the name of the next member of an object, if there is one; `isFirst` tells that none has
been taken. -/
def nextName (isFirst : Bool) : Scan (Option String) := do
  match ← skipBlanks with
  | none => failNext .endInObject
  | some b =>
    if b = byteOf '\x7d' then return none
    else if isFirst then name b
    else if b = byteOf ',' then
      skip
      match ← skipBlanks with
      | none => failNext .endInValue
      | some c => if c = byteOf '\x7d' then failNext .trailingComma else name c
    else failNext .expectedObjectEnd
where
  /-- Takes a name that starts with the given byte. -/
  name (first : UInt8) : Scan (Option String) := do
    if first = byteOf '"' then
      skip
      return some (← stringRest)
    else failNext .nameNotString

/-- Takes the colon after a name. -/
def colon : Scan Unit := do
  match ← skipBlanks with
  | none => failNext .endInObject
  | some b => if b = byteOf ':' then skip else failNext .expectedColon

/-- Takes the end of an object. -/
def objectEnd : Scan Unit := do
  match ← skipBlanks with
  | none => failNext .endInObject
  | some b =>
    if b = byteOf '\x7d' then skip
    else if b = byteOf ',' then failNext .trailingComma
    else failNext .trailingCharacters

mutual

/-- A value; `depth` more levels of nesting are allowed. -/
def value : Nat → Nat → Scan Json
  | 0, _ => failNext .nestedTooDeep
  | fuel + 1, depth => do
    match ← skipBlanks with
    | none => failNext .endInValue
    | some first =>
      if first = byteOf '[' then
        match depth with
        | 0 => failNext .nestedTooDeep
        | depth + 1 => do
          skip
          let items ← items fuel depth true
          arrayEnd
          return array items
      else if first = byteOf '\x7b' then
        match depth with
        | 0 => failNext .nestedTooDeep
        | depth + 1 => do
          skip
          let members ← members fuel depth true
          objectEnd
          return object members
      else
        match ← scalar? first with
        | some value => return value
        | none => failNext .expectedValue

/-- The items of an array. -/
def items : Nat → Nat → Bool → Scan (List Json)
  | 0, _, _ => failNext .nestedTooDeep
  | fuel + 1, depth, isFirst => do
    if ← nextItem isFirst then
      let item ← value fuel depth
      return item :: (← items fuel depth false)
    else return []

/-- The members of an object. -/
def members : Nat → Nat → Bool → Scan (List (String × Json))
  | 0, _, _ => failNext .nestedTooDeep
  | fuel + 1, depth, isFirst => do
    match ← nextName isFirst with
    | none => return []
    | some name => do
      colon
      let value ← value fuel depth
      return (name, value) :: (← members fuel depth false)

end

/-- A value and nothing else but blanks. -/
def document {α : Type} (read : Scan α) : Scan α := do
  let result ← read
  match ← skipBlanks with
  | none => return result
  | some _ => failNext .trailingCharacters

end Scan

/-! ### Places -/

/-- The text of a fault with its line and its column. -/
def ScanFault.placed (fault : ScanFault) (bytes : List UInt8) : String :=
  let before := bytes.take (bytes.length - fault.bytesLeft)
  let line := before.count 10 + 1
  let column := (before.reverse.takeWhile (· != 10)).length
  fault.message ++ " at line " ++ toString line ++ " column " ++ toString column

/-- Scans a text that holds one value; a fault is told with its place. -/
def scanText {α : Type} (scan : Scan α) (text : String) : Except String α :=
  let bytes := utf8Bytes text
  match (Scan.document scan).run bytes with
  | .ok (value, _) => .ok value
  | .error fault => .error (fault.placed bytes)

/-- Why a text is no JSON text, and where; empty if it is one. -/
def explain (text : String) : String :=
  match scanText (Scan.value (2 * text.utf8ByteSize + 2) nestingLimit) text with
  | .ok _ => ""
  | .error reason => reason

end Json

end Registrar
