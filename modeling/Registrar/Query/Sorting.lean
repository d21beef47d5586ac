import Registrar.Query.Row

/-!
# Sorting rows

Rows are sorted by the values of some of their columns, the first one deciding first. Rows that do
not differ in these columns keep their order, whatever the direction. A row that lacks a column
counts as equal to every other in that column.

## Main definitions

* `insertionSort` — a stable sort of any list.
* `compareKeys` — the order of rows by the values of the sort columns.
* `sortRows` — sorts rows.
-/

namespace Registrar

/-- Puts an item behind all items of a sorted list, last one first, that it is not less than. -/
def insertBack {α : Type} (less : α → α → Bool) (item : α) : List α → List α
  | [] => [item]
  | last :: rest =>
    if less item last then last :: insertBack less item rest else item :: last :: rest

/-- Sorts a list; items of which none is less keep their order. -/
def insertionSort {α : Type} (less : α → α → Bool) (items : List α) : List α :=
  (items.foldl (fun sorted item => insertBack less item sorted) []).reverse

/-- The order of two lists of sort values: the first pair that differs decides. -/
def compareKeys (direction : Direction) :
    List (Option FieldValue) → List (Option FieldValue) → Ordering
  | some a :: as, some b :: bs =>
    (direction.apply (a.order b)).then (compareKeys direction as bs)
  | _ :: as, _ :: bs => compareKeys direction as bs
  | _, _ => .eq

/-- Sorts rows. -/
def sortRows (order : Order) (rows : List Row) : List Row :=
  let withKeys := rows.map fun row => (order.keys.map row.get?, row)
  (insertionSort (fun a b => compareKeys order.direction a.1 b.1 == .lt) withKeys).map Prod.snd

end Registrar
