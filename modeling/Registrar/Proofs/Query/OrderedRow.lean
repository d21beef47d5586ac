import Registrar.Proofs.Query.Accounting

/-!
# Rows as ordered maps

A row keeps two things of the cells that were set one after the other: the order in which their
names came up, and under each name a value. The two are told from different ends. The first cell of
a name gives it its place, and later ones leave it there; the last cell of a name gives it its
value, and earlier ones are forgotten.

So the places are described by where a name is first found among all names, and the values by a
split of the cells behind which the name does not come up again. Neither description looks at how
a row stores its cells.

## Main definitions

* `ListsFirsts` — names in the order in which they came up.
* `Row.Remembers` — what a row keeps of the cells that were set.
* `Row.IsProjection` — the cells of a row under given names.

## Main results

* `listsFirsts_eraseDups` — distinct items are listed in the order in which they came up.
* `Row.remembers_insertAll`, `Row.exists_isProjection` — rows that are filled and projected.
* `Row.cells_are_remembered` — the two together.
-/

namespace Registrar

/-! ### Names in order -/

/-- A list has the names of another one, each once, in the order in which they come up there. -/
structure ListsFirsts (names firsts : List String) : Prop where
  nodup : firsts.Nodup
  mem_iff : ∀ name, name ∈ firsts ↔ name ∈ names
  ordered : firsts.Pairwise fun earlier later => names.idxOf earlier < names.idxOf later

theorem pairwise_idxOf_eraseDups (names : List String) :
    names.eraseDups.Pairwise fun earlier later => names.idxOf earlier < names.idxOf later := by
  induction names using List.reverseRecOn with
  | nil => exact List.Pairwise.nil
  | append_singleton names name ih =>
    have hplace {other : String} (hother : other ∈ names.eraseDups) :
        (names ++ [name]).idxOf other = names.idxOf other :=
      List.idxOf_append_of_mem (List.mem_eraseDups.mp hother)
    have hkept : names.eraseDups.Pairwise fun earlier later =>
        (names ++ [name]).idxOf earlier < (names ++ [name]).idxOf later := by
      refine ih.imp_of_mem fun hearlier hlater hlt => ?_
      rwa [hplace hearlier, hplace hlater]
    rw [eraseDups_concat]
    split
    · exact hkept
    · next hnew =>
      -- A name that was not there is found behind all that were.
      refine List.pairwise_append.mpr ⟨hkept, List.pairwise_singleton _ _, ?_⟩
      intro earlier hearlier
      rw [List.forall_mem_singleton, hplace hearlier, List.idxOf_append_of_notMem hnew]
      exact Nat.lt_add_right _ (List.idxOf_lt_length_of_mem (List.mem_eraseDups.mp hearlier))

theorem listsFirsts_eraseDups (names : List String) : ListsFirsts names names.eraseDups where
  nodup := nodup_eraseDups names
  mem_iff _ := List.mem_eraseDups
  ordered := pairwise_idxOf_eraseDups names

namespace Row

/-! ### Values -/

/-- A value is found under a name if the last cell of the name has it. -/
theorem get?_insertAll_eq_some_iff {cells : List (String × FieldValue)} {name : String}
    {value : FieldValue} :
    (empty.insertAll cells).get? name = some value ↔
      ∃ before after, cells = before ++ (name, value) :: after ∧ name ∉ after.map Prod.fst := by
  have hlookup : (empty.insertAll cells).get? name = cells.reverse.lookup name :=
    get?_insertAll.trans Option.or_none
  rw [hlookup, List.lookup_eq_some_iff]
  constructor
  · rintro ⟨after, before, hcells, hafter⟩
    refine ⟨before.reverse, after.reverse, ?_, fun hmem => ?_⟩
    · rw [← List.reverse_reverse cells, hcells, List.reverse_append, List.reverse_cons,
        List.append_assoc, List.singleton_append]
    · obtain ⟨cell, hcell, rfl⟩ := List.mem_map.mp hmem
      simpa using hafter cell (List.mem_reverse.mp hcell)
  · rintro ⟨before, after, rfl, hafter⟩
    refine ⟨after.reverse, before.reverse, ?_, fun cell hcell => ?_⟩
    · rw [List.reverse_append, List.reverse_cons, List.append_assoc, List.singleton_append]
    · refine bne_iff_ne.mpr fun hname => hafter ?_
      exact List.mem_map.mpr ⟨cell, List.mem_reverse.mp hcell, hname.symm⟩

/-- Nothing is found under a name exactly if the row has no such column. -/
theorem get?_eq_none_iff {row : Row} {name : String} :
    row.get? name = none ↔ name ∉ row.columns := by
  rw [columns, mem_names_iff, Bool.not_eq_true, Option.isSome_eq_false_iff,
    Option.isNone_iff_eq_none]
  rfl

/-! ### Rows that are filled -/

/-- What a row keeps of cells that were set one after the other. -/
structure Remembers (row : Row) (cells : List (String × FieldValue)) : Prop where
  columns : ListsFirsts (cells.map Prod.fst) row.columns
  size : row.size = (cells.map Prod.fst).toFinset.card
  /-- The last cell of a name counts. -/
  found : ∀ name value, row.get? name = some value ↔
    ∃ before after, cells = before ++ (name, value) :: after ∧ name ∉ after.map Prod.fst
  missing : ∀ name, row.get? name = none ↔ name ∉ cells.map Prod.fst

/-- **A row that is filled cell by cell remembers the cells.** -/
theorem remembers_insertAll (cells : List (String × FieldValue)) :
    (empty.insertAll cells).Remembers cells where
  columns := by
    rw [columns_insertAll]
    exact listsFirsts_eraseDups _
  size := by
    have hsize : (empty.insertAll cells).size = (empty.insertAll cells).columns.length :=
      (List.length_map _).symm
    rw [hsize, columns_insertAll, length_eraseDups]
  found _ _ := get?_insertAll_eq_some_iff
  missing _ := by rw [get?_eq_none_iff, columns_insertAll, List.mem_eraseDups]

/-! ### Rows that are projected -/

/-- A row has of another one the cells under the given names, in the order of the names. -/
structure IsProjection (projected row : Row) (names : List String) : Prop where
  columns : ListsFirsts names projected.columns
  get?_eq : ∀ name, projected.get? name = if name ∈ names then row.get? name else none

/-- **A row can be projected to columns that it has.** -/
theorem exists_isProjection {row : Row} {columns : List Column}
    (h : ∀ column ∈ columns, column.name ∈ row.columns) :
    ∃ projected, row.project columns = .ok projected ∧
      projected.IsProjection row (columns.map Column.name) := by
  obtain ⟨projected, hprojected⟩ := project_isOk fun column hcolumn =>
    Option.ne_none_iff_exists'.mp fun hnone => get?_eq_none_iff.mp hnone (h column hcolumn)
  have hshows := shows_project hprojected
  refine ⟨projected, hprojected, hshows.names ▸ listsFirsts_eraseDups _, fun name => ?_⟩
  split
  · next hname =>
    obtain ⟨column, hcolumn, rfl⟩ := List.mem_map.mp hname
    obtain ⟨value, hvalue, hfound⟩ := hshows.cells column hcolumn
    exact hfound.trans hvalue.symm
  · next hname =>
    rwa [get?_eq_none_iff, hshows.names, List.mem_eraseDups]

/-- **A row is an ordered map of the cells that were set.** Its columns are the names in the order
in which they were first set, under each of them is the value that was set last, and nothing is
found elsewhere. Projected to columns that it has, it keeps their values and takes their order. -/
theorem cells_are_remembered (cells : List (String × FieldValue)) :
    let row := empty.insertAll cells
    row.Remembers cells ∧
      ∀ columns : List Column, (∀ column ∈ columns, column.name ∈ row.columns) →
        ∃ projected, row.project columns = .ok projected ∧
          projected.IsProjection row (columns.map Column.name) :=
  ⟨remembers_insertAll cells, fun _ h => exists_isProjection h⟩

/-- A cell that is set again keeps its place, and a column that is asked for twice is there once. -/
theorem cells_are_remembered_replaced :
    let row := empty.insertAll [("z", .text "last"), ("a", .number ⟨0x3FF8000000000000⟩),
      ("z", .text "replaced"), ("m", .text "")]
    row.columns = ["z", "a", "m"] ∧ row.size = 3 ∧ row.get? "z" = some (.text "replaced") ∧
      row.get? "b" = none ∧
      ∃ projected, row.project [.applied "m", .applied "z", .applied "m"] = .ok projected ∧
        projected.columns = ["m", "z"] ∧ projected.get? "z" = some (.text "replaced") ∧
        projected.get? "a" = none := by
  intro row
  have hcolumns : ∀ column ∈ [Column.applied "m", .applied "z", .applied "m"],
      column.name ∈ row.columns := by decide
  obtain ⟨hremembers, hproject⟩ := cells_are_remembered
    [("z", .text "last"), ("a", .number ⟨0x3FF8000000000000⟩), ("z", .text "replaced"),
      ("m", .text "")]
  obtain ⟨projected, hprojected, hisProjection⟩ := hproject _ hcolumns
  have hreplaced : row.get? "z" = some (.text "replaced") :=
    (hremembers.found "z" _).mpr ⟨[("z", .text "last"), ("a", .number ⟨0x3FF8000000000000⟩)],
      [("m", .text "")], rfl, by decide⟩
  refine ⟨by decide, by decide, hreplaced, (hremembers.missing "b").mpr (by decide), projected,
    hprojected, ?_, ?_, hisProjection.get?_eq "a"⟩
  · rw [(shows_project hprojected).names]
    decide
  · exact (hisProjection.get?_eq "z").trans hreplaced

end Row

end Registrar
