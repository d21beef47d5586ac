import Registrar.Text.Printable

/-!
# Quoted texts

Messages show the texts they speak of in double quotes. A quote, a backslash and the common control
characters have escapes of two characters; every other character without a visible form of its own
is shown by its code point in hexadecimal digits between braces.

## Main definitions

* `quoted` — a text as messages show it.
* `quotedPath` — a path as messages show it, where a single quote has an escape too.
-/

namespace Registrar

/-- A character inside a quoted text. -/
def quotedChar (c : Char) : List Char :=
  if c = '"' then ['\\', '"']
  else if c = '\\' then ['\\', '\\']
  else if c = '\n' then ['\\', 'n']
  else if c = '\r' then ['\\', 'r']
  else if c = '\t' then ['\\', 't']
  else if c.toNat = 0 then ['\\', '0']
  else if isPrintable c && !extendsGrapheme c then [c]
  else '\\' :: 'u' :: '\x7b' :: Nat.toDigits 16 c.toNat ++ ['\x7d']

/-- A text as messages show it. -/
def quoted (text : String) : String :=
  String.ofList ('"' :: text.toList.flatMap quotedChar ++ ['"'])

/-- A character inside a quoted path. -/
def quotedPathChar (c : Char) : List Char :=
  if c = '\'' then ['\\', '\''] else quotedChar c

/-- A path as messages show it. -/
def quotedPath (path : String) : String :=
  String.ofList ('"' :: path.toList.flatMap quotedPathChar ++ ['"'])

end Registrar
