import Registrar.Query.Basic

/-!
# Result rows

A row is a list of named cells, and every name stands once. Setting a cell that is there replaces
its value where it stands; a new cell goes to the end. So the names stand in the order in which they
were first set.

## Main definitions

* `Row` — a row; `Row.get?`, `Row.insert`, `Row.columns` are its operations.
* `Row.insertAll` — sets cells one after the other.
-/

namespace Registrar

/-- A row of named cells. -/
@[ext]
structure Row where
  cells : List (String × FieldValue)
  /-- Every name stands once. -/
  nodup : (cells.map Prod.fst).Nodup
deriving DecidableEq, Repr

namespace Row

/-- The row without cells. -/
def empty : Row := ⟨[], List.nodup_nil⟩

instance : Inhabited Row := ⟨empty⟩

/-- The value of a cell. -/
def get? (row : Row) (column : String) : Option FieldValue :=
  row.cells.lookup column

/-- Sets a cell in a list of cells. -/
def setCell (column : String) (value : FieldValue) :
    List (String × FieldValue) → List (String × FieldValue)
  | [] => [(column, value)]
  | cell :: cells =>
    if cell.1 = column then (column, value) :: cells else cell :: setCell column value cells

/-- A new cell goes to the end, one that is there stays where it stands. -/
theorem names_setCell (column : String) (value : FieldValue) (cells : List (String × FieldValue)) :
    (setCell column value cells).map Prod.fst =
      if column ∈ cells.map Prod.fst then cells.map Prod.fst
      else cells.map Prod.fst ++ [column] := by
  induction cells with
  | nil => rfl
  | cons cell cells ih =>
    rw [setCell]
    by_cases hcell : cell.1 = column
    · rw [if_pos hcell, if_pos (by simp [hcell]), List.map_cons, List.map_cons, hcell]
    · have hmem : column ∈ (cell :: cells).map Prod.fst ↔ column ∈ cells.map Prod.fst := by
        rw [List.map_cons, List.mem_cons, or_iff_right (Ne.symm hcell)]
      rw [if_neg hcell, List.map_cons, ih]
      by_cases hin : column ∈ cells.map Prod.fst
      · rw [if_pos hin, if_pos (hmem.mpr hin), List.map_cons]
      · rw [if_neg hin, if_neg fun h => hin (hmem.mp h), List.map_cons, List.cons_append]

theorem nodup_setCell {column : String} {value : FieldValue} {cells : List (String × FieldValue)}
    (h : (cells.map Prod.fst).Nodup) : ((setCell column value cells).map Prod.fst).Nodup := by
  rw [names_setCell]
  split
  · exact h
  · next hnew =>
    refine List.nodup_append.mpr ⟨h, List.pairwise_singleton _ _, ?_⟩
    rintro name hname _ hcolumn rfl
    exact hnew (List.mem_singleton.mp hcolumn ▸ hname)

/-- Sets a cell. -/
def insert (row : Row) (column : String) (value : FieldValue) : Row :=
  ⟨setCell column value row.cells, nodup_setCell row.nodup⟩

@[simp]
theorem cells_insert (row : Row) (column : String) (value : FieldValue) :
    (row.insert column value).cells = setCell column value row.cells := rfl

/-- The names of the cells, in order. -/
def columns (row : Row) : List String :=
  row.cells.map Prod.fst

/-- The number of cells. -/
def size (row : Row) : Nat :=
  row.cells.length

/-- Whether there are no cells. -/
def isEmpty (row : Row) : Bool :=
  row.cells.isEmpty

/-- Sets cells one after the other. -/
def insertAll (row : Row) (cells : List (String × FieldValue)) : Row :=
  cells.foldl (fun row cell => row.insert cell.1 cell.2) row

/-- A row as a JSON object, in the order of its cells. -/
def toJson (row : Row) : Json :=
  .object (row.cells.map fun cell => (cell.1, cell.2.toJson))

end Row

end Registrar
