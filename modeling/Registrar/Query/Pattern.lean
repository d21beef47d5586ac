/-!
# Text patterns

A pattern is a literal text with an optional star at either end. A star stands for any text, the
empty one included; the literal stands for itself. The whole value has to match, and capital letters
differ from small ones.

## Main definitions

* `Pattern` — a pattern; `Pattern.text` writes it and `Pattern.ofText?` reads it.
* `Pattern.accepts` — whether a value matches.
-/

namespace Registrar

/-- A literal text with an optional star at either end. -/
structure Pattern where
  /-- Whether a star stands before the literal. -/
  leading : Bool
  literal : List Char
  /-- Whether a star stands after the literal. -/
  trailing : Bool
deriving DecidableEq, Inhabited, Repr

namespace Pattern

/-- The pattern as it is written. -/
def text (pattern : Pattern) : String :=
  String.ofList
    ((if pattern.leading then ['*'] else []) ++ pattern.literal ++
      (if pattern.trailing then ['*'] else []))

/-- Takes a star off the end. -/
def splitLast (text : List Char) : Bool × List Char :=
  if text.getLast? = some '*' then (true, text.dropLast) else (false, text)

/-- Reads a pattern: a star at the front is taken off, then one at the end of what is left; there
may be no other. -/
def ofText? (text : String) : Option Pattern :=
  let (leading, rest) : Bool × List Char :=
    match text.toList with
    | '*' :: rest => (true, rest)
    | rest => (false, rest)
  let (trailing, literal) := splitLast rest
  if literal.contains '*' then none else some ⟨leading, literal, trailing⟩

/-- Whether `literal` occurs somewhere in a text. -/
def occursIn (literal : List Char) : List Char → Bool
  | [] => literal.isEmpty
  | c :: rest => literal.isPrefixOf (c :: rest) || occursIn literal rest

/-- Whether a value matches the pattern. -/
def accepts (pattern : Pattern) (value : String) : Bool :=
  match pattern.leading, pattern.trailing with
  | false, false => value.toList == pattern.literal
  | false, true => pattern.literal.isPrefixOf value.toList
  | true, false => pattern.literal.isSuffixOf value.toList
  | true, true => occursIn pattern.literal value.toList

end Pattern

end Registrar
