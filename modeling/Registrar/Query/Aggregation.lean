import Registrar.Number.Decimal96
import Registrar.Query.Grouping
import Registrar.Query.Row

/-!
# Aggregates

An aggregate is one value computed over the records of a group. The extremes are numbers of the
group. Sums and averages are computed on the decimals that the numbers are written as, so that no
binary rounding adds up, and are reported with two places, a half going away from zero. The count is
the number of distinct values, where values are distinct as groups are.

Records are taken in order, and the first defect ends the computation.

## Main definitions

* `DistinctValues` — the distinct values seen so far, numbers and texts apart.
* `ApplyRule.evaluate` — the value of an aggregate over a list of records.
* `aggregateRow` — the cells of a group: its group fields and its aggregates.
-/

namespace Registrar

variable {α : Type} [HasFields α]

/-- Sums and averages have this many places. -/
def reportedPlaces : Nat := 2

/-- What is there, or a defect. -/
def orDefect {β : Type} (defect : Defect) (value : Option β) : Except Defect β :=
  match value with
  | some value => .ok value
  | none => .error defect

/-- The number of a record in the field of an aggregate. -/
def measureOf (key : FieldKey) (record : α) : Except Defect Binary64 := do
  let value ← lookupField key record
  orDefect .textAggregate value.number?

/-- The decimal a number is written as. If that does not fit, the number itself may, cut to tens;
this is so for `2 ^ 96` alone, whose text is larger than the number. -/
def decimalOf (value : Binary64) : Except Defect Decimal96 :=
  orDefect (.noDecimal value)
    (if value.isFinite then
      (Decimal96.ofDecimal? value.plainDecimal).or
        (Decimal96.ofTens? value.negative value.truncate.natAbs)
    else none)

/-- The number that `pick` leaves of all. -/
def extremum (pick : Binary64 → Binary64 → Binary64) (key : FieldKey) (records : List α) :
    Except Defect Binary64 := do
  let last ← records.foldlM
    (fun (best : Option Binary64) record => do
      let value ← measureOf key record
      return some (match best with
        | some best => pick best value
        | none => value))
    none
  orDefect .emptyGroup last

/-- The exact sum of the decimals of all records. -/
def decimalSum (key : FieldKey) (records : List α) : Except Defect Decimal96 :=
  records.foldlM
    (fun total record => do
      let value ← measureOf key record
      let decimal ← decimalOf value
      orDefect .sumOverflow (total.add? decimal))
    Decimal96.zero

/-- The sum, as a decimal with the reported places. -/
def sumDecimal (key : FieldKey) (records : List α) : Except Defect Decimal96 := do
  let total ← decimalSum key records
  return total.roundPlaces reportedPlaces

/-- The average, as a decimal with the reported places. -/
def averageDecimal (key : FieldKey) (records : List α) : Except Defect Decimal96 := do
  let total ← decimalSum key records
  if records.isEmpty then throw .emptyGroup
  let average ← orDefect .averageOverflow (total.divNat? records.length)
  return average.roundPlaces reportedPlaces

/-- The distinct values among those seen: numbers by their patterns, zeros without their sign, and
texts. -/
structure DistinctValues where
  patterns : List UInt64
  texts : List String

namespace DistinctValues

/-- Nothing has been seen. -/
def empty : DistinctValues := ⟨[], []⟩

/-- One more value. A value that was seen before changes nothing. -/
def add (seen : DistinctValues) : FieldValue → DistinctValues
  | .number value => { seen with patterns := seen.patterns.insert value.foldZero.bits }
  | .text value => { seen with texts := seen.texts.insert value }

/-- How many values are distinct. -/
def count (seen : DistinctValues) : Nat :=
  seen.patterns.length + seen.texts.length

end DistinctValues

/-- The values of all records, told apart. -/
def distinctValues (key : FieldKey) (records : List α) : Except Defect DistinctValues :=
  records.foldlM
    (fun seen record => do
      let value ← lookupField key record
      return seen.add value)
    DistinctValues.empty

/-- The number of distinct values. -/
def distinctCount (key : FieldKey) (records : List α) : Except Defect Nat :=
  (distinctValues key records).map DistinctValues.count

namespace ApplyRule

/-- The value of an aggregate over a list of records. -/
def evaluate (rule : ApplyRule) (records : List α) : Except Defect FieldValue :=
  match rule.aggregate with
  | .max => (extremum Binary64.max rule.key records).map .number
  | .min => (extremum Binary64.min rule.key records).map .number
  | .sum => (sumDecimal rule.key records).map fun total => .number total.toBinary64
  | .avg => (averageDecimal rule.key records).map fun average => .number average.toBinary64
  | .count => (distinctCount rule.key records).map fun count => .number (Binary64.ofNat count)

end ApplyRule

/-- The cells of a group: first its group fields, then its aggregates. -/
def aggregateRow (transformations : Transformations) (group : Group α) : Except Defect Row := do
  let keyCells := (transformations.group.map FieldKey.key).zip group.key
  let applyCells ← transformations.apply.mapM fun rule => do
    let value ← rule.evaluate group.members
    return (rule.name, value)
  return (Row.empty.insertAll keyCells).insertAll applyCells

end Registrar
