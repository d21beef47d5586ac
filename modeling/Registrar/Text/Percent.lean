import Registrar.Text.Utf8

/-!
# Percent encoding

Names travel in addresses and file names. Letters, digits and the four marks `-`, `_`, `.` and `~`
stand for themselves; every other byte of the UTF-8 form is written as `%` and two hexadecimal
digits, so the encoded name has no slash and no blank.

Decoding is lenient: a `%` that is not followed by two hexadecimal digits stands for itself. It
fails only if the bytes are no UTF-8 text.

## Main definitions

* `Percent.encode`, `Percent.decode?` — the encoding of texts.
-/

namespace Registrar

namespace Percent

/-- Whether a byte is a letter, a digit or one of the marks that stand for themselves. -/
def isUnreserved (byte : UInt8) : Bool :=
  (48 ≤ byte && byte ≤ 57) || (65 ≤ byte && byte ≤ 90) || (97 ≤ byte && byte ≤ 122) ||
    byte == 45 || byte == 46 || byte == 95 || byte == 126

/-- A hexadecimal digit, capital letters for ten and more. -/
def hexDigit (n : UInt8) : UInt8 :=
  if n < 10 then 48 + n else 55 + n

/-- The value of a hexadecimal digit. -/
def hexValue? (byte : UInt8) : Option UInt8 :=
  if 48 ≤ byte && byte ≤ 57 then some (byte - 48)
  else if 65 ≤ byte && byte ≤ 70 then some (byte - 55)
  else if 97 ≤ byte && byte ≤ 102 then some (byte - 87)
  else none

/-- One byte of an encoded text. -/
def encodeByte (byte : UInt8) : List UInt8 :=
  if isUnreserved byte then [byte] else [37, hexDigit (byte / 16), hexDigit (byte % 16)]

/-- The characters of an encoded text; all are ASCII. -/
def encodeChars (text : String) : List Char :=
  ((utf8Bytes text).flatMap encodeByte).map fun byte => Char.ofNat byte.toNat

/-- A text with all but unreserved bytes encoded. -/
def encode (text : String) : String :=
  String.ofList (encodeChars text)

/-- The bytes behind an encoded text. -/
def decodeBytes : List UInt8 → List UInt8
  | 37 :: high :: low :: rest =>
    match hexValue? high, hexValue? low with
    | some h, some l => (16 * h + l) :: decodeBytes rest
    | _, _ => 37 :: decodeBytes (high :: low :: rest)
  | byte :: rest => byte :: decodeBytes rest
  | [] => []

/-- The text behind an encoded text, if it is one. -/
def decode? (text : String) : Option String :=
  textOfUtf8? (decodeBytes (utf8Bytes text))

end Percent

end Registrar
