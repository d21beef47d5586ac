import Registrar.Json.Basic
import Registrar.Number.Layout

/-!
# Field values

A field of a record holds a number (a measure) or a text. The same values fill the cells of result
rows. Two values can be compared in three ways:

* `FieldValue.same` tells values apart for grouping and counting: numbers by their bit pattern with
  both zeros alike, texts by their characters, and a number is never the same as a text;
* `FieldValue.eq` is numeric equality, under which not-a-number differs from itself;
* `FieldValue.order` sorts: numbers by size, texts by code points, numbers before texts.

## Main definitions

* `FieldValue`, `FieldKind` — values and their two kinds.
* `HasFields` — what the query engine needs to know of a record: its fields by name.
-/

namespace Registrar

/-- The kind of a field. -/
inductive FieldKind where
  /-- Numeric. -/
  | measure
  /-- Textual. -/
  | text
deriving DecidableEq, Repr

/-- The value of a field or of a result cell. -/
inductive FieldValue where
  | number (value : Binary64)
  | text (value : String)
deriving DecidableEq, Inhabited, Repr

/-- Records whose fields are found by name. -/
class HasFields (α : Type) where
  /-- The value of the named field, if the record has it. -/
  field? : α → String → Option FieldValue

export HasFields (field?)

namespace FieldValue

/-- The kind of a value. -/
def kind : FieldValue → FieldKind
  | number _ => .measure
  | text _ => .text

/-- The number, if the value is one. -/
def number? : FieldValue → Option Binary64
  | number value => some value
  | text _ => none

/-- The text, if the value is one. -/
def text? : FieldValue → Option String
  | number _ => none
  | text value => some value

/-- The value that stands for all values that are the same for grouping. -/
def fold : FieldValue → FieldValue
  | number value => number value.foldZero
  | text value => text value

/-- Whether two values are the same for grouping and counting. -/
def same (a b : FieldValue) : Bool :=
  decide (a.fold = b.fold)

/-- Numeric equality of numbers, equality of texts. -/
def eq : FieldValue → FieldValue → Bool
  | number a, number b => a.eq b
  | text a, text b => a == b
  | _, _ => false

/-- The order of texts by code points, which is also the order of their bytes. -/
def compareText (a b : String) : Ordering :=
  if a < b then .lt else if b < a then .gt else .eq

/-- The order of result cells: numbers before texts. A number that has no place in the order counts
as equal to every number. -/
def order : FieldValue → FieldValue → Ordering
  | number a, number b => (a.compare? b).getD .eq
  | text a, text b => compareText a b
  | number _, text _ => .lt
  | text _, number _ => .gt

/-- The text that shows a value: a number without an exponent, a text as it is. -/
def display : FieldValue → String
  | number value => value.plainText
  | text value => value

/-- Numbers below this size that are whole are written as whole numbers. -/
def wholeBound : Nat := twoPow 53

/-- A value in a JSON document. -/
def toJson : FieldValue → Json
  | number value =>
    if value.isWhole && decide (value.truncate.natAbs < wholeBound) then .integer value.truncate
    else .ofNumber value
  | text value => .string value

/-- The value a JSON document holds, if it is a number or a text. -/
def ofJson? : Json → Option FieldValue
  | .string value => some (text value)
  | value => value.number?.map number

end FieldValue

end Registrar
