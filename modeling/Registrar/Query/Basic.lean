import Registrar.Dataset.Field
import Registrar.Dataset.Identifier
import Registrar.Query.Pattern

/-!
# Queries

A query is bound to one dataset. It has a filter over the records, the columns to show, an optional
order of the rows, and optionally groups with aggregates computed over them.

## Main definitions

* `FieldKey` — a field of the dataset, by its qualified key.
* `Filter`, `Comparator` — which records match.
* `Column`, `Order`, `Direction` — what is shown, and in which order.
* `Aggregate`, `ApplyRule`, `Transformations` — groups and the values computed over them.
* `Query` — all of it.
-/

namespace Registrar

/-- A field of a dataset. -/
structure FieldKey where
  datasetId : String
  field : String
deriving DecidableEq, Inhabited, Repr

namespace FieldKey

/-- The qualified key, as it is written in queries and in result rows. -/
def key (k : FieldKey) : String :=
  qualify k.datasetId k.field

end FieldKey

/-! ### Filters -/

/-- A comparison of a measure with a number. -/
inductive Comparator where
  | less
  | greater
  | equal
deriving DecidableEq, Repr

namespace Comparator

/-- The tag of a comparison in a query. -/
def tag : Comparator → String
  | less => "LT"
  | greater => "GT"
  | equal => "EQ"

/-- The comparison with the given tag. -/
def ofTag? (tag : String) : Option Comparator :=
  match tag with
  | "LT" => some less
  | "GT" => some greater
  | "EQ" => some equal
  | _ => none

/-- Compares the number of a record with the operand of the query. -/
def holds (op : Comparator) (actual operand : Binary64) : Bool :=
  match op with
  | less => actual.lt operand
  | greater => operand.lt actual
  | equal => actual.eq operand

end Comparator

/-- A condition on records. -/
inductive Filter where
  /-- Every record matches. -/
  | all
  | not (inner : Filter)
  | and (branches : List Filter)
  | or (branches : List Filter)
  /-- A measure compares with a number. -/
  | compare (op : Comparator) (key : FieldKey) (operand : Binary64)
  /-- A text matches a pattern. -/
  | accepts (key : FieldKey) (pattern : Pattern)
deriving Inhabited

namespace Filter

mutual

/-- Whether two filters are the same, numbers compared by value and patterns by their text. -/
def same : Filter → Filter → Bool
  | all, all => true
  | not a, not b => same a b
  | and as, and bs => sameList as bs
  | or as, or bs => sameList as bs
  | compare op key x, compare op' key' x' => decide (op = op') && decide (key = key') && x.eq x'
  | accepts key p, accepts key' p' => decide (key = key') && p.text == p'.text
  | _, _ => false

/-- Whether two lists of filters are the same, one by one. -/
def sameList : List Filter → List Filter → Bool
  | [], [] => true
  | a :: as, b :: bs => same a b && sameList as bs
  | _, _ => false

end

end Filter

/-! ### Columns and order -/

/-- A column of the result. -/
inductive Column where
  /-- A field of the records, or of the groups. -/
  | field (key : FieldKey)
  /-- A value computed over the groups, by its name. -/
  | applied (name : String)
deriving DecidableEq, Inhabited, Repr

namespace Column

/-- The name of a column. -/
def name : Column → String
  | field key => key.key
  | applied name => name

end Column

/-- Smaller values first, or larger ones. -/
inductive Direction where
  | up
  | down
deriving DecidableEq, Inhabited, Repr

namespace Direction

/-- The direction of the given name. -/
def ofText? (text : String) : Option Direction :=
  match text with
  | "UP" => some up
  | "DOWN" => some down
  | _ => none

/-- An ordering as seen in the direction. -/
def apply (direction : Direction) (ordering : Ordering) : Ordering :=
  match direction with
  | up => ordering
  | down => ordering.swap

end Direction

/-- The order of the rows. -/
inductive Order where
  /-- By one column, smaller values first. -/
  | single (key : String)
  /-- By several columns, the first one deciding first. -/
  | multi (direction : Direction) (keys : List String)
deriving DecidableEq, Inhabited, Repr

namespace Order

/-- The direction of an order. -/
def direction : Order → Direction
  | single _ => .up
  | multi direction _ => direction

/-- The columns of an order, the first one deciding first. -/
def keys : Order → List String
  | single key => [key]
  | multi _ keys => keys

end Order

/-! ### Groups -/

/-- A value computed over the records of a group. -/
inductive Aggregate where
  | max
  | min
  | avg
  | sum
  /-- The number of distinct values. -/
  | count
deriving DecidableEq, Repr

namespace Aggregate

/-- The name of an aggregate in a query. -/
def name : Aggregate → String
  | max => "MAX"
  | min => "MIN"
  | avg => "AVG"
  | sum => "SUM"
  | count => "COUNT"

/-- The aggregate of the given name. -/
def ofText? (text : String) : Option Aggregate :=
  match text with
  | "MAX" => some max
  | "MIN" => some min
  | "AVG" => some avg
  | "SUM" => some sum
  | "COUNT" => some count
  | _ => none

/-- Whether the aggregate is defined for measures only. -/
def requiresMeasure : Aggregate → Bool
  | count => false
  | _ => true

end Aggregate

/-- A named aggregate of a field. -/
structure ApplyRule where
  name : String
  aggregate : Aggregate
  key : FieldKey
deriving DecidableEq, Repr

/-- Groups of records with equal values of some fields, and the aggregates computed over each. -/
structure Transformations where
  group : List FieldKey
  apply : List ApplyRule
deriving DecidableEq, Repr

/-- A query. -/
structure Query where
  datasetId : String
  filter : Filter
  columns : List Column
  order : Option Order
  transformations : Option Transformations
deriving Inhabited

namespace Query

/-- The names of the columns, in order. -/
def columnNames (query : Query) : List String :=
  query.columns.map Column.name

end Query

end Registrar
