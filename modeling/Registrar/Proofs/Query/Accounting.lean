import Registrar.Proofs.Query.Safety
import Registrar.Proofs.Query.Sorting

/-!
# Every row is accounted for

A query comes to one row for each record that matches, or, if it has groups, for each tuple of
values that the matching records have in the group fields. This number alone decides whether there
are too many rows; no aggregate is computed before. A row has each selected column once, and in it
what the record holds, what the records of the tuple hold, or the aggregate over exactly these
records. Sorting moves rows and nothing else.

## Why no cell hides another

Cells are found by their names, and a later cell replaces an earlier one of its name. All keys of an
accepted query belong to one dataset, so two of them with one name are the same key. The names of
aggregates differ from each other and, having no separator, from every key.

## Main definitions

* `Filter.matching` — the records that match, in their own order.
* `Query.rowCount` — the number of rows that matching records come to.
* `Row.Shows` — what a row has in its columns; `Query.RowsOf` tells it of all rows.
* `Output.Accounts` — what a result has to do with the records.

## Main results

* `execute_eq` — an execution as a count followed by the rows.
* `exists_execute_eq` — the same for accepted queries, in any order of the rows.
* `execute_accounts` — accepted queries account for every row.
-/

namespace Registrar

variable {α : Type} [HasFields α] {engine : ExpressionEngine} {schema : Schema}

/-! ### Records that match -/

namespace Filter

/-- Whether a filter is true of a record. -/
def holds (filter : Filter) (record : α) : Bool :=
  match filter.test record with
  | .ok result => result
  | .error _ => false

/-- The records of which a filter is true. -/
def matching (filter : Filter) (records : List α) : List α :=
  records.filter filter.holds

theorem holds_iff {filter : Filter} {record : α} :
    filter.holds record = true ↔ filter.test record = .ok true := by
  rw [holds]
  split
  · next h => simp [h]
  · next h => simp [h]

/-- An evaluation finds the records that match, though a disjunction may change their order. -/
theorem perm_of_evaluate {filter : Filter} {records found : List α}
    (h : filter.evaluate records = .ok found) : found.Perm (filter.matching records) := by
  obtain ⟨entries, -, rfl, hpositioned, hentries⟩ := entries_of_evaluate h
  have hperm : entries.Perm (records.zipIdx.filter (filter.holds ∘ Prod.fst)) := by
    refine (List.perm_ext_iff_of_nodup (List.Nodup.of_map Prod.snd hpositioned)
      ((List.Nodup.of_map Prod.snd (positioned_zipIdx records)).filter _)).mpr ?_
    rintro ⟨record, position⟩
    rw [hentries, List.mem_filter, List.mem_zipIdx_iff_getElem?, Function.comp_apply, holds_iff]
  have hmatched := hperm.map Prod.fst
  rwa [← List.filter_map, List.zipIdx_map_fst] at hmatched

end Filter

/-! ### Names tell cells apart -/

/-- All group keys are of one dataset, and no aggregate has the name of a key or of another one. -/
structure Transformations.Named (datasetId : String) (transformations : Transformations) :
    Prop where
  keys : ∀ key ∈ transformations.group, key.datasetId = datasetId
  plain : ∀ rule ∈ transformations.apply, keySeparator ∉ rule.name.toList
  distinct : (transformations.apply.map ApplyRule.name).Nodup

/-- A column is a field of the dataset, or, if there are groups, a group key or an aggregate. -/
def Column.Named (datasetId : String) : Option Transformations → Column → Prop
  | none, .field key => key.datasetId = datasetId
  | none, .applied _ => False
  | some transformations, .field key => key ∈ transformations.group
  | some transformations, .applied name => name ∈ transformations.apply.map ApplyRule.name

/-- The names of the cells of a query tell them apart. -/
structure Query.Named (query : Query) : Prop where
  transformations : ∀ transformations ∈ query.transformations,
    transformations.Named query.datasetId
  columns : ∀ column ∈ query.columns, column.Named query.datasetId query.transformations

theorem SpellsTransformations.named {context : KeyContext} {value : Json}
    {transformations : Transformations} (h : SpellsTransformations context value transformations) :
    transformations.Named context.datasetId := by
  obtain ⟨-, -, hkeys, hrules, hdistinct⟩ := h
  refine ⟨fun key hkey => ?_, fun rule hrule => ?_, hdistinct⟩
  · obtain ⟨_, -, _, -, hnames⟩ := exists_of_mem_forall₂ hkeys hkey
    exact hnames.dataset
  · obtain ⟨_, -, hspells⟩ := exists_of_mem_forall₂ hrules hrule
    obtain ⟨-, hplain, -, -⟩ := hspells
    exact hplain

theorem SpellsColumn.named {context : KeyContext} {transformations : Option Transformations}
    {value : Json} {column : Column} (h : SpellsColumn context transformations value column) :
    column.Named context.datasetId transformations ∧ value = .string column.name := by
  cases h with
  | field known => exact ⟨known.dataset, congrArg Json.string known.written⟩
  | group found =>
    have hname := List.find?_some found
    exact ⟨List.mem_of_find?_eq_some found, congrArg Json.string (beq_iff_eq.mp hname).symm⟩
  | applied _ found => exact ⟨found, rfl⟩

theorem SpellsQuery.named {tree : Json} {query : Query} (h : SpellsQuery engine schema tree query) :
    query.Named := by
  obtain ⟨-, -, -, -, -, -, htransformations, -, hcolumns, -, -⟩ := h
  refine ⟨fun found hfound => ?_, fun column hcolumn => ?_⟩
  · obtain rfl : _ = some found := hfound
    obtain ⟨value, -, hvalue⟩ := exists_of_rel_some htransformations
    exact hvalue.named
  · obtain ⟨value, -, hvalue⟩ := exists_of_mem_forall₂ hcolumns hcolumn
    exact hvalue.named.1

/-- The columns of a query are those that its tree asks for, as often as it does. -/
theorem SpellsQuery.columnNames_eq {tree : Json} {query : Query}
    (h : SpellsQuery engine schema tree query) :
    (tree.member "OPTIONS").member "COLUMNS" = .array (query.columnNames.map .string) := by
  obtain ⟨-, -, hoptions, -, hvalues, -, -, -, hcolumns, -, -⟩ := h
  simp only [Json.member, Json.member?, hoptions, Option.getD_some, hvalues, Json.array.injEq]
  rw [← List.forall₂_eq_eq_eq, Query.columnNames, List.forall₂_map_right_iff,
    List.forall₂_map_right_iff]
  exact hcolumns.imp fun value column hcolumn => hcolumn.named.2

theorem FieldKey.ext_of_key {a b : FieldKey} (hdataset : a.datasetId = b.datasetId)
    (hkey : a.key = b.key) : a = b := by
  obtain ⟨datasetId, field⟩ := a
  obtain ⟨datasetId', field'⟩ := b
  obtain rfl : datasetId = datasetId' := hdataset
  simpa [FieldKey.key, qualify] using hkey

/-- An aggregate is found by its name. -/
theorem Transformations.Named.find? {datasetId : String} {transformations : Transformations}
    (h : transformations.Named datasetId) {rule : ApplyRule}
    (hrule : rule ∈ transformations.apply) :
    (transformations.apply.find? fun other => other.name = rule.name) = some rule := by
  cases hfound : transformations.apply.find? fun other => other.name = rule.name with
  | none => exact absurd (by simp) (List.find?_eq_none.mp hfound rule hrule)
  | some found =>
    have hname : found.name = rule.name := by simpa using List.find?_some hfound
    rw [List.inj_on_of_nodup_map h.distinct (List.mem_of_find?_eq_some hfound) hrule hname]

theorem FieldKey.separator_mem (key : FieldKey) : keySeparator ∈ key.key.toList := by
  rw [FieldKey.key, toList_qualify]
  exact List.mem_append_right _ List.mem_cons_self

/-! ### What a row shows -/

/-- What a column has of a record. -/
def Column.ofRecord? (record : α) : Column → Option FieldValue
  | .field key => field? record key.field
  | .applied _ => none

/-- What a column has of records with the same values in the group fields: a group field has the
value of the first of them, and an aggregate is computed over all of them. -/
def Column.ofGroup? (apply : List ApplyRule) (members : List α) : Column → Option FieldValue
  | .field key => members.head?.bind fun first => field? first key.field
  | .applied name =>
    (apply.find? fun rule => rule.name = name).bind fun rule => (rule.evaluate members).toOption

/-- A row has every column, each once and in the order in which they are first asked for, and in
each the value it should have. -/
structure Row.Shows (row : Row) (columns : List Column) (value? : Column → Option FieldValue) :
    Prop where
  names : row.columns = (columns.map Column.name).eraseDups
  cells : ∀ column ∈ columns, ∃ value,
    value? column = some value ∧ row.get? column.name = some value

namespace Row

/-- What is found after cells have been set for items, if the name of an item tells its value. -/
theorem get?_insertAll_of_forall₂ (row : Row) {ι : Type} {items : List ι} {name : ι → String}
    {value? : ι → Option FieldValue} {cells : List (String × FieldValue)}
    (hcells : List.Forall₂ (fun item cell => cell.1 = name item ∧ value? item = some cell.2)
      items cells)
    (hsame : ∀ a ∈ items, ∀ b ∈ items, name a = name b → value? a = value? b) {item : ι}
    (hitem : item ∈ items) :
    ∃ value, value? item = some value ∧ (row.insertAll cells).get? (name item) = some value := by
  obtain ⟨⟨_, value⟩, hcell, rfl, hvalue⟩ := exists_of_mem_forall₂ hcells.flip hitem
  refine ⟨value, hvalue, get?_insertAll_of_mem hcell fun other hother => ?_⟩
  obtain ⟨another, hanother, hname, hvalue'⟩ := exists_of_mem_forall₂ hcells hother
  rw [← Option.some_inj, ← hvalue', ← hvalue]
  exact hsame another hanother item hitem hname.symm

theorem shows_insertAll {columns : List Column} {value? : Column → Option FieldValue}
    {cells : List (String × FieldValue)}
    (hcells : List.Forall₂ (fun column cell => cell.1 = column.name ∧
      value? column = some cell.2) columns cells)
    (hsame : ∀ a ∈ columns, ∀ b ∈ columns, a.name = b.name → value? a = value? b) :
    (Row.empty.insertAll cells).Shows columns value? := by
  refine ⟨?_, fun column hcolumn => get?_insertAll_of_forall₂ _ hcells hsame hcolumn⟩
  rw [columns_insertAll]
  refine congrArg List.eraseDups ?_
  rw [← List.forall₂_eq_eq_eq, List.forall₂_map_left_iff, List.forall₂_map_right_iff]
  exact hcells.flip.imp fun cell column hcell => hcell.1

theorem Shows.congr {row : Row} {columns : List Column}
    {value? value?' : Column → Option FieldValue} (h : row.Shows columns value?)
    (heq : ∀ column ∈ columns, value? column = value?' column) :
    row.Shows columns value?' := by
  refine ⟨h.names, fun column hcolumn => ?_⟩
  rw [← heq column hcolumn]
  exact h.cells column hcolumn

/-- A projected row shows the cells of the row. -/
theorem shows_project {row projected : Row} {columns : List Column}
    (h : row.project columns = .ok projected) :
    projected.Shows columns fun column => row.get? column.name := by
  obtain ⟨cells, hcells, hrow⟩ := bind_eq_ok_iff.mp h
  rw [← pure_eq_ok_iff.mp hrow]
  refine shows_insertAll ((mapM_eq_ok_iff.mp hcells).imp fun column cell hcell => ?_)
    fun a _ b _ hname => congrArg row.get? hname
  obtain ⟨value, hvalue, rfl⟩ := map_eq_ok_iff.mp hcell
  exact ⟨rfl, orDefect_eq_ok_iff.mp hvalue⟩

end Row

/-- The row of a record shows the fields of the record. -/
theorem shows_recordRow {datasetId : String} {columns : List Column} {record : α} {row : Row}
    (hcolumns : ∀ column ∈ columns, column.Named datasetId none)
    (h : recordRow columns record = .ok row) : row.Shows columns (Column.ofRecord? record) := by
  obtain ⟨cells, hcells, hrow⟩ := bind_eq_ok_iff.mp h
  rw [← pure_eq_ok_iff.mp hrow]
  refine Row.shows_insertAll ((mapM_eq_ok_iff.mp hcells).imp fun column cell hcell => ?_)
    fun a ha b hb hname => ?_
  · obtain ⟨value, hvalue, rfl⟩ := map_eq_ok_iff.mp hcell
    rw [orDefect_eq_ok_iff] at hvalue
    exact ⟨rfl, by cases column <;> exact hvalue⟩
  · cases a with
    | applied name => exact absurd (hcolumns _ ha) id
    | field key =>
      cases b with
      | applied name => exact absurd (hcolumns _ hb) id
      | field key' =>
        obtain rfl : key = key' :=
          FieldKey.ext_of_key ((hcolumns _ ha).trans (hcolumns _ hb).symm) hname
        rfl

/-! ### What a group shows -/

theorem forall₂_applyCells {transformations : Transformations} {members : List α}
    {cells : List (String × FieldValue)}
    (h : transformations.apply.mapM (fun rule => do
      let value ← rule.evaluate members
      return (rule.name, value)) = .ok cells) :
    List.Forall₂ (fun rule cell => cell.1 = rule.name ∧
      (rule.evaluate members).toOption = some cell.2) transformations.apply cells := by
  refine (mapM_eq_ok_iff.mp h).imp fun rule cell hcell => ?_
  obtain ⟨value, hvalue, hcell⟩ := bind_eq_ok_iff.mp hcell
  cases pure_eq_ok_iff.mp hcell
  exact ⟨rfl, by rw [hvalue]; rfl⟩

theorem forall₂_keyCells {keys : List FieldKey} {first : α} {values : List FieldValue}
    (h : List.Forall₂ (fun key value => field? first key.field = some value) keys values) :
    List.Forall₂ (fun (key : FieldKey) (cell : String × FieldValue) => cell.1 = key.key ∧
      field? first key.field = some cell.2) keys ((keys.map FieldKey.key).zip values) := by
  induction h with
  | nil => exact .nil
  | cons hvalue _ ih => exact .cons ⟨rfl, hvalue⟩ ih

/-- The cells of a group are its fields and its aggregates, and none hides another. -/
theorem get?_of_aggregateRow {datasetId : String} {transformations : Transformations}
    {group : Group α} {row : Row} {first : α} (hnamed : transformations.Named datasetId)
    (hfirst : group.members.head? = some first)
    (hkey : List.Forall₂ (fun key value => field? first key.field = some value)
      transformations.group group.key)
    (h : aggregateRow transformations group = .ok row) {column : Column}
    (hcolumn : column.Named datasetId (some transformations)) :
    row.get? column.name = column.ofGroup? transformations.apply group.members := by
  obtain ⟨cells, hcells, hrow⟩ := bind_eq_ok_iff.mp h
  rw [← pure_eq_ok_iff.mp hrow]
  have hrules := forall₂_applyCells hcells
  cases column with
  | field key =>
    have hother : key.key ∉ cells.map Prod.fst := by
      intro hmem
      obtain ⟨cell, hcell, hname⟩ := List.mem_map.mp hmem
      obtain ⟨rule, hrule, hcell, -⟩ := exists_of_mem_forall₂ hrules hcell
      exact hnamed.plain rule hrule (hcell ▸ hname ▸ key.separator_mem)
    obtain ⟨value, hvalue, hget⟩ := Row.get?_insertAll_of_forall₂ Row.empty
      (forall₂_keyCells hkey) (fun a ha b hb hname => by
        rw [FieldKey.ext_of_key ((hnamed.keys a ha).trans (hnamed.keys b hb).symm) hname]) hcolumn
    rw [Column.name, Row.get?_insertAll_of_not_mem hother, hget, Column.ofGroup?, hfirst,
      Option.bind_some, hvalue]
  | applied name =>
    obtain ⟨rule, hrule, rfl⟩ := List.mem_map.mp hcolumn
    obtain ⟨value, hvalue, hget⟩ := Row.get?_insertAll_of_forall₂
      (Row.empty.insertAll ((transformations.group.map FieldKey.key).zip group.key)) hrules
      (fun a ha b hb hname => by rw [List.inj_on_of_nodup_map hnamed.distinct ha hb hname]) hrule
    rw [Column.name, hget, Column.ofGroup?, hnamed.find? hrule, Option.bind_some, hvalue]

/-! ### All rows -/

namespace Query

/-- The number of rows that matching records come to: their own, or that of the tuples they have in
the group fields. -/
def rowCount (query : Query) (matched : List α) : Nat :=
  match query.transformations with
  | none => matched.length
  | some transformations => (matched.map (groupTuple transformations.group)).toFinset.card

/-- The rows that matching records come to, uncounted and unsorted. -/
def rows (query : Query) (matched : List α) : Except Defect (List Row) :=
  match query.transformations with
  | none => matched.mapM (recordRow query.columns)
  | some transformations => do
    let groups ← groupRecords transformations.group matched
    let rows ← groups.mapM (aggregateRow transformations)
    rows.mapM fun row => row.project query.columns

/-- Rows in the order of a query, if it has one. -/
def sorted (query : Query) (rows : List Row) : List Row :=
  match query.order with
  | some order => sortRows order rows
  | none => rows

/-- One row for each matching record, or one for each tuple that matching records have in the group
fields, over the records that have it. -/
def RowsOf (query : Query) (matched : List α) (rows : List Row) : Prop :=
  match query.transformations with
  | none => List.Forall₂ (fun record row => row.Shows query.columns (Column.ofRecord? record))
      matched rows
  | some transformations =>
    List.Forall₂ (fun tuple row => row.Shows query.columns (Column.ofGroup? transformations.apply
        (matched.filter fun record => groupTuple transformations.group record = tuple)))
      (matched.map (groupTuple transformations.group)).eraseDups rows

theorem rowCount_perm (query : Query) {matched matched' : List α} (h : matched.Perm matched') :
    query.rowCount matched = query.rowCount matched' := by
  rw [rowCount, rowCount]
  split
  · exact h.length_eq
  · next transformations _ => rw [List.toFinset_eq_of_perm _ _ (h.map _)]

theorem sorted_perm (query : Query) (rows : List Row) : (query.sorted rows).Perm rows := by
  rw [sorted]
  split
  · next order _ => exact sortRows_perm order rows
  · exact List.Perm.refl rows

theorem rowsOf_of_rows {query : Query} (hnamed : query.Named) {matched : List α} {rows : List Row}
    (h : query.rows matched = .ok rows) : query.RowsOf matched rows := by
  have hcolumns := hnamed.columns
  rw [Query.rows] at h
  rw [RowsOf]
  cases htransformations : query.transformations with
  | none =>
    simp only [htransformations] at h hcolumns
    exact (mapM_eq_ok_iff.mp h).imp fun record row hrow => shows_recordRow hcolumns hrow
  | some transformations =>
    simp only [htransformations, bind_eq_ok_iff] at h hcolumns
    obtain ⟨groups, hgroups, cells, hcells, hrows⟩ := h
    have htuples := groupRecords_forall₂ hgroups
    -- Three lists run side by side: the tuples, the rows of the groups and what is left of them.
    refine List.forall₂_iff_get.mpr ?_
    have hcells := List.forall₂_iff_get.mp (mapM_eq_ok_iff.mp hcells)
    have hrows := List.forall₂_iff_get.mp (mapM_eq_ok_iff.mp hrows)
    have htuples := List.forall₂_iff_get.mp htuples
    refine ⟨htuples.1.trans (hcells.1.trans hrows.1), fun i hi hi' => ?_⟩
    have hgroup : i < groups.length := htuples.1 ▸ hi
    have hcell : i < cells.length := hcells.1 ▸ hgroup
    obtain ⟨hmembers, first, hfirst, hkey⟩ := htuples.2 i hi hgroup
    rw [← hmembers]
    exact (Row.shows_project (hrows.2 i hcell hi')).congr fun column hcolumn =>
      get?_of_aggregateRow (hnamed.transformations _ htransformations) hfirst hkey
        (hcells.2 i hgroup hcell) (hcolumns column hcolumn)

end Query

/-! ### Executions -/

theorem recordRows_eq (columns : List Column) (limit : Nat) (matched : List α) :
    recordRows columns limit matched = if limit < matched.length then
        .error (.tooLarge matched.length limit)
      else liftDefect (matched.mapM (recordRow columns)) := by
  rw [recordRows, checkLimit]
  split <;> rfl

theorem groupRows_eq {transformations : Transformations} {columns : List Column} {limit : Nat}
    {matched : List α} {groups : List (Group α)}
    (hgroups : groupRecords transformations.group matched = .ok groups) :
    groupRows transformations columns limit matched = if limit < groups.length then
        .error (.tooLarge groups.length limit)
      else liftDefect (groups.mapM (aggregateRow transformations) >>= fun rows =>
        rows.mapM fun row => row.project columns) := by
  simp only [groupRows, hgroups, liftDefect_ok, bind_ok, checkLimit]
  split
  · rfl
  · cases groups.mapM (aggregateRow transformations) with
    | error defect => rfl
    | ok rows => rfl

/-- **An execution is a count followed by the rows.** The rows matter only if they are not too many,
and what they are does not depend on how many are allowed. -/
theorem execute_eq (query : Query) {records matched : List α} (limit : Nat)
    (hmatched : query.filter.evaluate records = .ok matched)
    (htyped : query.WellTyped schema) (hconform : ∀ record ∈ matched, Conforms schema record) :
    execute query records limit = if limit < query.rowCount matched then
        .error (.tooLarge (query.rowCount matched) limit)
      else (liftDefect (query.rows matched)).map fun rows =>
        ⟨query.columnNames, query.sorted rows, records.length⟩ := by
  obtain ⟨datasetId, filter, columns, order, transformations⟩ := query
  cases transformations with
  | none =>
    have hcount : Query.rowCount ⟨datasetId, filter, columns, order, none⟩ matched =
        matched.length := rfl
    simp only [execute, hmatched, liftDefect_ok, bind_ok, recordRows_eq, Query.rows, hcount]
    by_cases hlarge : limit < matched.length
    · simp only [if_pos hlarge]
      rfl
    · simp only [if_neg hlarge]
      cases matched.mapM (recordRow columns) <;> rfl
  | some transformations =>
    obtain ⟨groups, hgroups⟩ := groupRecords_isOk fun record hrecord key hkey => by
      obtain ⟨value, hvalue, -⟩ := (hconform record hrecord).field?
        ((htyped.transformations _ rfl).group key hkey)
      exact ⟨value, hvalue⟩
    have hcount : Query.rowCount ⟨datasetId, filter, columns, order, some transformations⟩ matched =
        groups.length := (length_eraseDups _).symm.trans (groupRecords_forall₂ hgroups).length_eq
    simp only [execute, hmatched, liftDefect_ok, bind_ok, groupRows_eq hgroups, Query.rows, hgroups,
      hcount]
    by_cases hlarge : limit < groups.length
    · simp only [if_pos hlarge]
      rfl
    · simp only [if_neg hlarge]
      cases (groups.mapM (aggregateRow transformations) >>= fun rows : List Row =>
        rows.mapM fun row => row.project columns) <;> rfl

/-- A result accounts for records: it has the columns that were asked for, tells how many records
were looked at, and its rows are those that the matching records come to. -/
structure Output.Accounts (output : Output) (tree : Json) (query : Query) (records : List α) :
    Prop where
  columns : (tree.member "OPTIONS").member "COLUMNS" = .array (output.columns.map .string)
  scanned : output.recordsScanned = records.length
  count : output.rows.length = query.rowCount (query.filter.matching records)
  rows : ∃ matched rows, matched.Perm (query.filter.matching records) ∧
    query.RowsOf matched rows ∧ output.rows.Perm rows

theorem Query.RowsOf.length_eq {query : Query} {matched : List α} {rows : List Row}
    (h : query.RowsOf matched rows) : rows.length = query.rowCount matched := by
  rw [Query.RowsOf] at h
  rw [Query.rowCount]
  split
  · next htransformations =>
    rw [htransformations] at h
    exact (List.Forall₂.length_eq h).symm
  · next transformations htransformations =>
    rw [htransformations] at h
    rw [← length_eraseDups]
    exact (List.Forall₂.length_eq h).symm

/-- The execution of an accepted query, in whatever order: records match, they are counted, and
unless there are too many rows, these are computed and sorted. Only a sum or an average can keep
them from being computed. -/
theorem exists_execute_eq {tree : Json} {kind : DatasetKind} {query : Query}
    {records : List Record} (hquery : validate tree kind.schema = .ok query)
    (hrecords : ∀ record ∈ records, record.kind = kind) :
    ∃ matched, matched.Perm (query.filter.matching records) ∧
      (∀ order limit, execute { query with order } records limit =
        if limit < query.rowCount matched then .error (.tooLarge (query.rowCount matched) limit)
        else (liftDefect (query.rows matched)).map fun rows =>
          ⟨query.columnNames, Query.sorted { query with order } rows, records.length⟩) ∧
      ((∀ cause, ¬DecimalDefect query records cause) → ∃ rows, query.rows matched = .ok rows) := by
  have htyped := (validate_eq_ok_iff.mp hquery).wellTyped
  have hconform : ∀ record ∈ records, Conforms kind.schema record := fun record hrecord =>
    hrecords record hrecord ▸ record.conforms
  obtain ⟨matched, hmatched⟩ := Filter.evaluate_isOk_iff.mpr fun record hrecord =>
    htyped.filter.test_isOk (hconform record hrecord)
  have hmatchedConform : ∀ record ∈ matched, Conforms kind.schema record := fun record hrecord =>
    hconform record (Filter.mem_of_evaluate hmatched hrecord)
  have hexecute (order : Option Order) (limit : Nat) :=
    execute_eq { query with order } limit hmatched
      ⟨htyped.filter, htyped.transformations, htyped.columns⟩ hmatchedConform
  refine ⟨matched, Filter.perm_of_evaluate hmatched, hexecute, fun hdecimal => ?_⟩
  -- With room for all rows, the outcome tells whether they can be computed.
  have hrows := hexecute query.order (query.rowCount matched)
  rw [if_neg (Nat.lt_irrefl _)] at hrows
  obtain ⟨output, houtput⟩ | ⟨rows, -, hlarge⟩ | ⟨cause, -, hcause⟩ :=
    execute_outcome (query.rowCount matched) htyped hconform
  · obtain ⟨rows, hrows, -⟩ := map_eq_ok_iff.mp (hrows.symm.trans houtput)
    exact ⟨rows, mapError_eq_ok_iff.mp hrows⟩
  · have hlarge := hrows.symm.trans hlarge
    simp [liftDefect] at hlarge
  · exact absurd hcause (hdecimal cause)

/-- **Accepted queries account for every row.** Over records of the kind whose schema it was checked
against, a query has too many rows exactly by the number of matching records or of tuples, whatever
its aggregates come to. If they are not too many, more may be allowed to no effect, and unless a sum
or an average fails there is a result that accounts for the records. Another order only permutes its
rows. No aggregate has the name of a group key. -/
theorem execute_accounts {tree : Json} {kind : DatasetKind} {query : Query}
    {records : List Record} (limit : Nat) (hquery : validate tree kind.schema = .ok query)
    (hrecords : ∀ record ∈ records, record.kind = kind) :
    let count := query.rowCount (query.filter.matching records)
    (limit < count → execute query records limit = .error (.tooLarge count limit)) ∧
    (count ≤ limit →
      (∀ larger, limit ≤ larger → execute query records larger = execute query records limit) ∧
      ((∀ cause, ¬DecimalDefect query records cause) →
        ∃ output, execute query records limit = .ok output ∧ output.Accounts tree query records ∧
          ∀ order, ∃ rows, rows.Perm output.rows ∧
            execute { query with order } records limit = .ok { output with rows })) ∧
    ∀ transformations ∈ query.transformations, ∀ rule ∈ transformations.apply,
      rule.name ∉ transformations.group.map FieldKey.key := by
  intro count
  have hspells := validate_eq_ok_iff.mp hquery
  have hnamed := hspells.named
  obtain ⟨matched, hperm, hexecute, hcomputed⟩ := exists_execute_eq hquery hrecords
  rw [show query.rowCount matched = count from query.rowCount_perm hperm] at hexecute
  have hquery (limit : Nat) := hexecute query.order limit
  refine ⟨fun hlarge => ?_, fun hsmall => ⟨fun larger hlarger => ?_, fun hdecimal => ?_⟩, ?_⟩
  · exact (hquery limit).trans (if_pos hlarge)
  · refine (hquery larger).trans (Eq.trans ?_ (hquery limit).symm)
    rw [if_neg (by omega), if_neg (by omega)]
  · obtain ⟨rows, hrows⟩ := hcomputed hdecimal
    have hresult (order : Option Order) : execute { query with order } records limit =
        .ok ⟨query.columnNames, Query.sorted { query with order } rows, records.length⟩ := by
      rw [hexecute, if_neg (by omega), hrows]
      rfl
    have hrowsOf := Query.rowsOf_of_rows hnamed hrows
    refine ⟨⟨query.columnNames, query.sorted rows, records.length⟩, hresult query.order,
      ⟨hspells.columnNames_eq, rfl, ?_, matched, rows, hperm, hrowsOf, query.sorted_perm rows⟩,
      fun order => ⟨_, ?_, hresult order⟩⟩
    · exact (query.sorted_perm rows).length_eq.trans
        (hrowsOf.length_eq.trans (query.rowCount_perm hperm))
    · exact (Query.sorted_perm { query with order } rows).trans (query.sorted_perm rows).symm
  · intro transformations htransformations rule hrule hmem
    obtain ⟨key, -, hkey⟩ := List.mem_map.mp hmem
    exact (hnamed.transformations _ htransformations).plain rule hrule (hkey ▸ key.separator_mem)

/-- Three sections of two departments come to two rows, the count shown twice. -/
theorem execute_accounts_departments :
    let tree : Json := .object [("WHERE", .object []),
      ("OPTIONS", .object [("COLUMNS", .array [.string "n", .string "s_dept", .string "n"]),
        ("ORDER", .string "n")]),
      ("TRANSFORMATIONS", .object [("GROUP", .array [.string "s_dept"]),
        ("APPLY", .array [.object [("n", .object [("COUNT", .string "s_uuid")])]])])]
    let offering (uuid dept : String) : Record :=
      .ofSection ⟨uuid, "310", "t", "i", dept, .zero, .zero, .zero, .zero, .zero⟩
    let records := [offering "1" "cpsc", offering "2" "math", offering "3" "cpsc"]
    let query : Query := ⟨"s", .all, [.applied "n", .field ⟨"s", "dept"⟩, .applied "n"],
      some (.single "n"), some ⟨[⟨"s", "dept"⟩], [⟨"n", .count, ⟨"s", "uuid"⟩⟩]⟩⟩
    validate tree DatasetKind.sections.schema = .ok query ∧
      execute query records 1 = .error (.tooLarge 2 1) ∧
      ∃ output, execute query records 2 = .ok output ∧ output.Accounts tree query records := by
  intro tree offering records query
  have hquery : validate tree DatasetKind.sections.schema = .ok query := by rfl
  have hrecords : ∀ record ∈ records, record.kind = .sections := by
    simp [records, offering, Record.kind]
  have hcount : query.rowCount (query.filter.matching records) = 2 := by decide
  have hdecimal : ∀ cause, ¬DecimalDefect query records cause := by
    rintro cause ⟨-, _, _, _, htransformations, -, -, _, -, rule, hrule, hdecimal, -⟩
    cases htransformations
    obtain rfl : rule = ⟨"n", .count, ⟨"s", "uuid"⟩⟩ := by simpa using hrule
    simp [ApplyRule.IsDecimal] at hdecimal
  refine ⟨hquery, ?_, ?_⟩
  · rw [(execute_accounts 1 hquery hrecords).1 (by rw [hcount]; decide), hcount]
  · obtain ⟨output, houtput, haccounts, -⟩ :=
      ((execute_accounts 2 hquery hrecords).2.1 hcount.le).2 hdecimal
    exact ⟨output, houtput, haccounts⟩

end Registrar
