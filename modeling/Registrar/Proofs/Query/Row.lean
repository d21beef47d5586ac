import Registrar.Proofs.Json.Members
import Registrar.Query.Row

/-!
# Cells of rows

Setting a cell changes what is found under its own name and nothing else. So of cells set one after
the other, every name is found, with the value that was set last. The names stand in the order in
which they were first set, each once.

## Main results

* `Row.get?_insert`, `Row.columns_insert` — a row after a cell has been set.
* `Row.get?_insertAll`, `Row.columns_insertAll` — a row after cells have been set one by one.
-/

namespace Registrar

/-- One more name goes to the end of the distinct ones, unless it is among them. -/
theorem eraseDups_concat (names : List String) (name : String) :
    (names ++ [name]).eraseDups =
      if name ∈ names then names.eraseDups else names.eraseDups ++ [name] := by
  rw [List.eraseDups_append]
  by_cases h : name ∈ names
  · rw [if_pos h, List.removeAll, List.filter_cons_of_neg (by simpa using h)]
    exact List.append_nil _
  · rw [if_neg h, List.removeAll, List.filter_cons_of_pos (by simpa using h)]
    rfl

namespace Row

theorem lookup_setCell {column name : String} {value : FieldValue}
    {cells : List (String × FieldValue)} :
    (setCell column value cells).lookup name =
      if name = column then some value else cells.lookup name := by
  induction cells with
  | nil => rw [setCell, lookup_cons_eq_ite]
  | cons cell cells ih =>
    rw [setCell]
    split
    · next hcell =>
      rw [lookup_cons_eq_ite, lookup_cons_eq_ite, hcell]
      split <;> rfl
    · next hcell =>
      rw [lookup_cons_eq_ite, ih, lookup_cons_eq_ite]
      by_cases h : name = cell.1
      · rw [if_pos h, if_pos h, if_neg (h ▸ hcell)]
      · rw [if_neg h, if_neg h]

/-- A cell of a new name goes to the end. -/
theorem setCell_of_not_mem {column : String} {value : FieldValue}
    {cells : List (String × FieldValue)} (h : column ∉ cells.map Prod.fst) :
    setCell column value cells = cells ++ [(column, value)] := by
  induction cells with
  | nil => rfl
  | cons cell cells ih =>
    rw [List.map_cons, List.mem_cons, not_or] at h
    rw [setCell, if_neg (Ne.symm h.1), ih h.2, List.cons_append]

theorem get?_insert {row : Row} {column name : String} {value : FieldValue} :
    (row.insert column value).get? name = if name = column then some value else row.get? name :=
  lookup_setCell

/-- A new cell goes to the end, one that is there stays where it stands. -/
theorem columns_insert {row : Row} {column : String} {value : FieldValue} :
    (row.insert column value).columns =
      if column ∈ row.columns then row.columns else row.columns ++ [column] :=
  names_setCell column value row.cells

/-! ### Cells one by one -/

theorem insertAll_append_singleton {row : Row} {cells : List (String × FieldValue)}
    {cell : String × FieldValue} :
    row.insertAll (cells ++ [cell]) = (row.insertAll cells).insert cell.1 cell.2 := by
  rw [insertAll, List.foldl_append]
  rfl

/-- **Of cells of one name the last one counts.** -/
theorem get?_insertAll {row : Row} {cells : List (String × FieldValue)} {name : String} :
    (row.insertAll cells).get? name = (cells.reverse.lookup name).or (row.get? name) := by
  induction cells using List.reverseRecOn with
  | nil => rfl
  | append_singleton cells cell ih =>
    rw [insertAll_append_singleton, get?_insert, ih, List.reverse_append, List.reverse_singleton,
      List.singleton_append, lookup_cons_eq_ite]
    split <;> rfl

/-- **Every name stands once, in the order in which it was first set.** -/
theorem columns_insertAll {cells : List (String × FieldValue)} :
    (empty.insertAll cells).columns = (cells.map Prod.fst).eraseDups := by
  induction cells using List.reverseRecOn with
  | nil => rfl
  | append_singleton cells cell ih =>
    rw [insertAll_append_singleton, columns_insert, ih, List.map_append, List.map_singleton,
      eraseDups_concat]
    simp only [List.mem_eraseDups]

/-- Cells of new names are put behind those that are there. -/
theorem cells_insertAll (row : Row) {cells : List (String × FieldValue)}
    (h : (row.columns ++ cells.map Prod.fst).Nodup) :
    (row.insertAll cells).cells = row.cells ++ cells := by
  induction cells using List.reverseRecOn with
  | nil => exact (List.append_nil _).symm
  | append_singleton cells cell ih =>
    rw [List.map_append, ← List.append_assoc, List.map_singleton] at h
    obtain ⟨hbefore, -, hnew⟩ := List.nodup_append.mp h
    have hcells := ih hbefore
    have hfresh : cell.1 ∉ (row.insertAll cells).cells.map Prod.fst := by
      rw [hcells, List.map_append]
      exact fun hmem => hnew _ hmem _ List.mem_cons_self rfl
    rw [insertAll_append_singleton, cells_insert, setCell_of_not_mem hfresh, hcells,
      List.append_assoc]

/-- What is found if all cells of the name have the same value. -/
theorem get?_insertAll_of_mem {row : Row} {cells : List (String × FieldValue)} {name : String}
    {value : FieldValue} (h : (name, value) ∈ cells)
    (hsame : ∀ other, (name, other) ∈ cells → other = value) :
    (row.insertAll cells).get? name = some value := by
  have hfound : (cells.reverse.lookup name).isSome :=
    mem_names_iff.mp (List.mem_map.mpr ⟨_, List.mem_reverse.mpr h, rfl⟩)
  obtain ⟨other, hother⟩ := Option.isSome_iff_exists.mp hfound
  obtain ⟨before, after, hcells, -⟩ := List.lookup_eq_some_iff.mp hother
  have hmem : (name, other) ∈ cells := by
    rw [← List.mem_reverse, hcells]
    exact List.mem_append_right before List.mem_cons_self
  rw [get?_insertAll, hother, hsame other hmem, Option.some_or]

/-- Cells of other names change nothing. -/
theorem get?_insertAll_of_not_mem {row : Row} {cells : List (String × FieldValue)} {name : String}
    (h : name ∉ cells.map Prod.fst) : (row.insertAll cells).get? name = row.get? name := by
  have hnone : cells.reverse.lookup name = none := by
    rw [← Option.isNone_iff_eq_none, ← Option.isSome_eq_false_iff, ← Bool.not_eq_true,
      ← mem_names_iff, List.map_reverse, List.mem_reverse]
    exact h
  rw [get?_insertAll, hnone, Option.none_or]

/-- What is found after cells have been set is what was there before, or it is one of them. -/
theorem exists_get?_insertAll {row : Row} {cells : List (String × FieldValue)} {name : String}
    (h : name ∈ cells.map Prod.fst ∨ ∃ value, row.get? name = some value) :
    ∃ value, (row.insertAll cells).get? name = some value := by
  rw [← Option.isSome_iff_exists, get?_insertAll, Option.isSome_or, Bool.or_eq_true]
  rw [← List.mem_reverse, ← List.map_reverse, mem_names_iff] at h
  exact h.imp_right fun ⟨value, hvalue⟩ => by rw [hvalue]; rfl

end Row

end Registrar
