import Registrar.Json.Basic
import Registrar.Number.Layout

/-!
# Writing JSON texts

Two layouts: the compact one has no blanks; the indented one puts every item and member on a line of
its own, two blanks deeper than the brackets around it. Control characters, quotes and backslashes
in strings are escaped, everything else stands for itself.

## Main definitions

* `Json.compact` — the compact text.
* `Json.pretty` — the indented text.
* `Json.escape` — a string without the quotes around it.
-/

namespace Registrar

namespace Json

/-! ### Strings -/

/-- A hexadecimal digit. -/
def hexDigit (n : Nat) : Char :=
  if n < 10 then Char.ofNat (48 + n) else Char.ofNat (87 + n)

/-- A character inside a string. -/
def escapeChar (c : Char) : List Char :=
  if c = '"' then ['\\', '"']
  else if c = '\\' then ['\\', '\\']
  else if c = '\x08' then ['\\', 'b']
  else if c = '\x0c' then ['\\', 'f']
  else if c = '\n' then ['\\', 'n']
  else if c = '\r' then ['\\', 'r']
  else if c = '\t' then ['\\', 't']
  else if c.toNat < 0x20 then
    ['\\', 'u', '0', '0', hexDigit (c.toNat / 16), hexDigit (c.toNat % 16)]
  else [c]

/-- The characters of a string, escaped. -/
def escape (text : String) : List Char :=
  text.toList.flatMap escapeChar

/-- A string in quotes. -/
def quoteChars (text : String) : List Char :=
  '"' :: escape text ++ ['"']

/-- A scalar value; arrays and objects have none. -/
def scalarChars : Json → List Char
  | null => "null".toList
  | bool true => "true".toList
  | bool false => "false".toList
  | integer value => (toString value).toList
  | real value => (if value.isFinite then value.jsonText else "null").toList
  | string value => quoteChars value
  | array _ => []
  | object _ => []

/-! ### The compact layout -/

mutual

/-- The compact text as characters. -/
def compactChars : Json → List Char
  | array [] => ['[', ']']
  | array (item :: items) => '[' :: compactChars item ++ compactItems items
  | object [] => ['\x7b', '\x7d']
  | object ((name, value) :: members) =>
    '\x7b' :: quoteChars name ++ ':' :: compactChars value ++ compactMembers members
  | scalar => scalarChars scalar

/-- The items after the first one, and the closing bracket. -/
def compactItems : List Json → List Char
  | [] => [']']
  | item :: items => ',' :: compactChars item ++ compactItems items

/-- The members after the first one, and the closing brace. -/
def compactMembers : List (String × Json) → List Char
  | [] => ['\x7d']
  | (name, value) :: members =>
    ',' :: quoteChars name ++ ':' :: compactChars value ++ compactMembers members

end

/-- The text without blanks. -/
def compact (value : Json) : String :=
  String.ofList (compactChars value)

/-! ### The indented layout -/

/-- A new line, indented by two blanks a level. -/
def newline (level : Nat) : List Char :=
  '\n' :: List.replicate (2 * level) ' '

mutual

/-- The indented text as characters, for a value `level` levels deep. -/
def prettyChars (level : Nat) : Json → List Char
  | array [] => ['[', ']']
  | array (item :: items) =>
    '[' :: newline (level + 1) ++ prettyChars (level + 1) item ++ prettyItems level items
  | object [] => ['\x7b', '\x7d']
  | object ((name, value) :: members) =>
    '\x7b' :: newline (level + 1) ++ quoteChars name ++ ':' :: ' ' ::
      prettyChars (level + 1) value ++ prettyMembers level members
  | scalar => scalarChars scalar

/-- The items after the first one, and the closing bracket. -/
def prettyItems (level : Nat) : List Json → List Char
  | [] => newline level ++ [']']
  | item :: items =>
    ',' :: newline (level + 1) ++ prettyChars (level + 1) item ++ prettyItems level items

/-- The members after the first one, and the closing brace. -/
def prettyMembers (level : Nat) : List (String × Json) → List Char
  | [] => newline level ++ ['\x7d']
  | (name, value) :: members =>
    ',' :: newline (level + 1) ++ quoteChars name ++ ':' :: ' ' ::
      prettyChars (level + 1) value ++ prettyMembers level members

end

/-- The text with a line for each item and member. -/
def pretty (value : Json) : String :=
  String.ofList (prettyChars 0 value)

end Json

end Registrar
