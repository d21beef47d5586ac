import Registrar.Proofs.Query.Renaming

/-!
# Queries do not depend on the id of their dataset

A query is run over the records of its dataset, and records know nothing of the id. So the renamed
query, run over the same records, comes to the same outcome: too many rows, a defect, or the same
rows in the same order with the same values, under the renamed columns.

The proof goes through the steps of a run, side by side for both queries. A filter, the groups and
an aggregate read fields only, and for them nothing changes but the key that a defect speaks of.
Rows are different. Their cells are set, found and sorted by name, so that a run of the renamed
query could merge two cells that the run of the query keeps apart. It does not because the renaming
is injective on the names of the dataset, and because all cells have such names.

## Main definitions

* `bimap` — an outcome with images of its result and its error.
* `Row.rename`, `Output.rename` — rows and results under the names of another dataset.
* `Defect.moveTo`, `ExecutionError.moveTo` — errors that speak of another dataset.

## Main results

* `Filter.select_moveTo`, `groupRecords_moveTo`, `ApplyRule.evaluate_moveTo` — records are read
  alike.
* `Row.insertAll_rename`, `Row.get?_rename`, `sortRows_rename` — rows are renamed cell by cell.
* `execute_moveTo` — a renamed query comes to the renamed outcome.
* `execute_renameQuery` — the same for a tree that was accepted, which is accepted when renamed.
-/

namespace Registrar

/-! ### Outcomes side by side -/

section

variable {ε ε' α α' β β' : Type} {g : ε → ε'}

/-- An outcome with images of its result and its error. -/
def bimap (f : α → α') (g : ε → ε') : Except ε α → Except ε' α'
  | .ok a => .ok (f a)
  | .error e => .error (g e)

/-- Steps that come to images of each other are followed by steps that do. -/
theorem bind_bimap {x : Except ε α} {x' : Except ε' α'} {k : α → α'} {f : α → Except ε β}
    {f' : α' → Except ε' β'} {h : β → β'} (hx : x' = bimap k g x)
    (hf : ∀ a, x = .ok a → f' (k a) = bimap h g (f a)) : (x' >>= f') = bimap h g (x >>= f) := by
  subst hx
  cases x with
  | error e => rfl
  | ok a => exact hf a rfl

theorem map_bimap {x : Except ε α} {x' : Except ε' α'} {k : α → α'} {f : α → β} {f' : α' → β'}
    {h : β → β'} (hx : x' = bimap k g x) (hf : ∀ a, f' (k a) = h (f a)) :
    x'.map f' = bimap h g (x.map f) := by
  subst hx
  cases x with
  | error e => rfl
  | ok a => exact congrArg Except.ok (hf a)

theorem mapM_bimap {f : α → Except ε β} {f' : α' → Except ε' β'} {k : α → α'} {h : β → β'}
    {xs : List α} (hstep : ∀ x ∈ xs, f' (k x) = bimap h g (f x)) :
    (xs.map k).mapM f' = bimap (List.map h) g (xs.mapM f) := by
  induction xs with
  | nil => rfl
  | cons x xs ih =>
    obtain ⟨hx, hxs⟩ := List.forall_mem_cons.mp hstep
    rw [List.map_cons, List.mapM_cons, List.mapM_cons]
    exact bind_bimap hx fun y _ => bind_bimap (ih hxs) fun ys _ => rfl

/-- One list that is read in two ways. -/
theorem mapM_bimap_same {f : α → Except ε β} {f' : α → Except ε' β'} {h : β → β'} {xs : List α}
    (hstep : ∀ x ∈ xs, f' x = bimap h g (f x)) :
    xs.mapM f' = bimap (List.map h) g (xs.mapM f) := by
  have hmap : (xs.map id).mapM f' = bimap (List.map h) g (xs.mapM f) := mapM_bimap hstep
  rwa [List.map_id] at hmap

theorem foldlM_bimap {f : β → α → Except ε β} {f' : β → α → Except ε' β} {xs : List α} {b : β}
    (hstep : ∀ b x, f' b x = bimap id g (f b x)) :
    xs.foldlM f' b = bimap id g (xs.foldlM f b) := by
  induction xs generalizing b with
  | nil => rfl
  | cons x xs ih =>
    rw [List.foldlM_cons, List.foldlM_cons]
    exact bind_bimap (hstep b x) fun next _ => ih

end

/-! ### Defects -/

/-- A defect that speaks of the fields and columns of another dataset. -/
def Defect.moveTo (oldId newId : String) : Defect → Defect
  | .noFieldOfKind kind key => .noFieldOfKind kind (key.moveTo newId)
  | .noField key => .noField (key.moveTo newId)
  | .noColumnField column => .noColumnField (renameKey oldId newId column)
  | .noCell column => .noCell (renameKey oldId newId column)
  | other => other

/-- A reason that speaks of another dataset. -/
def ExecutionError.moveTo (oldId newId : String) : ExecutionError → ExecutionError
  | .tooLarge rows limit => .tooLarge rows limit
  | .defect cause => .defect (cause.moveTo oldId newId)

variable {α : Type} [HasFields α] {oldId newId : String}

theorem orDefect_moveTo {β : Type} {defect defect' : Defect} {value : Option β}
    (h : defect' = defect.moveTo oldId newId) :
    orDefect defect' value = bimap id (Defect.moveTo oldId newId) (orDefect defect value) := by
  subst h
  cases value <;> rfl

theorem liftDefect_bimap {β β' : Type} {f : β → β'} {x : Except Defect β}
    {x' : Except Defect β'} (h : x' = bimap f (Defect.moveTo oldId newId) x) :
    liftDefect x' = bimap f (ExecutionError.moveTo oldId newId) (liftDefect x) := by
  subst h
  cases x <;> rfl

theorem checkLimit_moveTo (rows limit : Nat) :
    checkLimit rows limit =
      bimap id (ExecutionError.moveTo oldId newId) (checkLimit rows limit) := by
  rw [checkLimit]
  split <;> rfl

/-! ### Filters -/

theorem numberAt_moveTo (key : FieldKey) (record : α) :
    numberAt (key.moveTo newId) record =
      bimap id (Defect.moveTo oldId newId) (numberAt key record) := by
  rw [numberAt, numberAt, FieldKey.field_moveTo]
  cases (field? record key.field).bind FieldValue.number? <;> rfl

theorem textAt_moveTo (key : FieldKey) (record : α) :
    textAt (key.moveTo newId) record =
      bimap id (Defect.moveTo oldId newId) (textAt key record) := by
  rw [textAt, textAt, FieldKey.field_moveTo]
  cases (field? record key.field).bind FieldValue.text? <;> rfl

omit [HasFields α] in
theorem retain_bimap {g : Defect → Defect} {test test' : α → Except Defect Bool}
    (htest : ∀ record, test' record = bimap id g (test record)) (entries : List (α × Nat)) :
    retain test' entries = bimap id g (retain test entries) := by
  induction entries with
  | nil => rfl
  | cons entry entries ih =>
    rw [retain, retain]
    exact bind_bimap (htest entry.1) fun keep _ => bind_bimap ih fun kept _ => rfl

namespace Filter

mutual

/-- **A renamed filter selects the same records.** -/
theorem select_moveTo (filter : Filter) (entries : List (α × Nat)) :
    (filter.moveTo newId).select entries =
      bimap id (Defect.moveTo oldId newId) (filter.select entries) := by
  cases filter with
  | all =>
    rw [moveTo, select]
    rfl
  | not inner =>
    rw [moveTo, select, select]
    exact bind_bimap (select_moveTo inner entries) fun excluded _ => rfl
  | and branches =>
    rw [moveTo, select, select]
    exact selectAll_moveTo branches entries
  | or branches =>
    rw [moveTo, select, select]
    exact bind_bimap (selectEach_moveTo branches entries) fun found _ => rfl
  | compare op key operand =>
    rw [moveTo, select, select]
    exact retain_bimap (fun record => map_bimap (numberAt_moveTo key record) fun _ => rfl) entries
  | accepts key pattern =>
    rw [moveTo, select, select]
    exact retain_bimap (fun record => map_bimap (textAt_moveTo key record) fun _ => rfl) entries

theorem selectAll_moveTo (branches : List Filter) (entries : List (α × Nat)) :
    selectAll (moveAllTo newId branches) entries =
      bimap id (Defect.moveTo oldId newId) (selectAll branches entries) := by
  cases branches with
  | nil =>
    rw [moveAllTo, selectAll]
    rfl
  | cons branch branches =>
    rw [moveAllTo, selectAll, selectAll]
    exact bind_bimap (select_moveTo branch entries) fun narrowed _ =>
      selectAll_moveTo branches narrowed

theorem selectEach_moveTo (branches : List Filter) (entries : List (α × Nat)) :
    selectEach (moveAllTo newId branches) entries =
      bimap id (Defect.moveTo oldId newId) (selectEach branches entries) := by
  cases branches with
  | nil =>
    rw [moveAllTo, selectEach]
    rfl
  | cons branch branches =>
    rw [moveAllTo, selectEach, selectEach]
    exact bind_bimap (select_moveTo branch entries) fun found _ =>
      bind_bimap (selectEach_moveTo branches entries) fun rest _ => rfl

end

theorem evaluate_moveTo (filter : Filter) (records : List α) :
    (filter.moveTo newId).evaluate records =
      bimap id (Defect.moveTo oldId newId) (filter.evaluate records) :=
  map_bimap (select_moveTo filter records.zipIdx) fun _ => rfl

end Filter

/-! ### Groups and aggregates -/

theorem lookupField_moveTo (key : FieldKey) (record : α) :
    lookupField (key.moveTo newId) record =
      bimap id (Defect.moveTo oldId newId) (lookupField key record) := by
  rw [lookupField, lookupField, FieldKey.field_moveTo]
  cases field? record key.field <;> rfl

theorem keyed_moveTo (keys : List FieldKey) (record : α) :
    keyed (keys.map (FieldKey.moveTo newId)) record =
      bimap id (Defect.moveTo oldId newId) (keyed keys record) :=
  bind_bimap (mapM_bimap fun key _ => lookupField_moveTo key record) fun values _ =>
    congrArg (fun values => Except.ok (values, record)) (List.map_id values)

/-- **Renamed group keys make the same groups.** -/
theorem groupRecords_moveTo (keys : List FieldKey) (records : List α) :
    groupRecords (keys.map (FieldKey.moveTo newId)) records =
      bimap id (Defect.moveTo oldId newId) (groupRecords keys records) :=
  map_bimap (mapM_bimap_same fun record _ => keyed_moveTo keys record) fun entries =>
    congrArg groupsOf (List.map_id entries)

theorem measureOf_moveTo (key : FieldKey) (record : α) :
    measureOf (key.moveTo newId) record =
      bimap id (Defect.moveTo oldId newId) (measureOf key record) :=
  bind_bimap (lookupField_moveTo key record) fun _ _ => orDefect_moveTo rfl

theorem extremum_moveTo (pick : Binary64 → Binary64 → Binary64) (key : FieldKey)
    (records : List α) :
    extremum pick (key.moveTo newId) records =
      bimap id (Defect.moveTo oldId newId) (extremum pick key records) :=
  bind_bimap (foldlM_bimap fun _ record =>
    bind_bimap (measureOf_moveTo key record) fun _ _ => rfl) fun _ _ => orDefect_moveTo rfl

theorem decimalSum_moveTo (key : FieldKey) (records : List α) :
    decimalSum (key.moveTo newId) records =
      bimap id (Defect.moveTo oldId newId) (decimalSum key records) :=
  foldlM_bimap fun _ record => bind_bimap (measureOf_moveTo key record) fun _ _ =>
    bind_bimap (orDefect_moveTo rfl) fun _ _ => orDefect_moveTo rfl

theorem averageDecimal_moveTo (key : FieldKey) (records : List α) :
    averageDecimal (key.moveTo newId) records =
      bimap id (Defect.moveTo oldId newId) (averageDecimal key records) := by
  refine bind_bimap (decimalSum_moveTo key records) fun total _ => ?_
  cases records with
  | nil => rfl
  | cons record records => exact bind_bimap (orDefect_moveTo rfl) fun _ _ => rfl

theorem distinctCount_moveTo (key : FieldKey) (records : List α) :
    distinctCount (key.moveTo newId) records =
      bimap id (Defect.moveTo oldId newId) (distinctCount key records) :=
  map_bimap (foldlM_bimap fun _ record =>
    bind_bimap (lookupField_moveTo key record) fun _ _ => rfl) fun _ => rfl

/-- **A renamed aggregate has the same value.** -/
theorem ApplyRule.evaluate_moveTo (rule : ApplyRule) (records : List α) :
    (rule.moveTo newId).evaluate records =
      bimap id (Defect.moveTo oldId newId) (rule.evaluate records) := by
  obtain ⟨name, aggregate, key⟩ := rule
  cases aggregate with
  | max => exact map_bimap (extremum_moveTo Binary64.max key records) fun _ => rfl
  | min => exact map_bimap (extremum_moveTo Binary64.min key records) fun _ => rfl
  | avg => exact map_bimap (averageDecimal_moveTo key records) fun _ => rfl
  | sum =>
    exact map_bimap (bind_bimap (decimalSum_moveTo key records) fun _ _ => rfl) fun _ => rfl
  | count => exact map_bimap (distinctCount_moveTo key records) fun _ => rfl

/-! ### Rows -/

namespace Row

/-- The cells of a row, set one after the other under the images of their names. -/
def rename (f : String → String) (row : Row) : Row :=
  empty.insertAll (row.cells.map (Prod.map f id))

/-- All cells have names of the dataset. -/
def Named (id : String) (row : Row) : Prop :=
  ∀ column ∈ row.columns, IsName id column

section

variable (hold : keySeparator ∉ oldId.toList) {row : Row} {cells : List (String × FieldValue)}

include hold

theorem setCell_rename {column : String} {value : FieldValue} (hcolumn : IsName oldId column)
    (hcells : ∀ cell ∈ cells, IsName oldId cell.1) :
    setCell (renameKey oldId newId column) value
        (cells.map (Prod.map (renameKey oldId newId) id)) =
      (setCell column value cells).map (Prod.map (renameKey oldId newId) id) := by
  induction cells with
  | nil => rfl
  | cons cell cells ih =>
    obtain ⟨hcell, hcells⟩ := List.forall_mem_cons.mp hcells
    rw [List.map_cons, setCell, setCell, ih hcells, Prod.map_fst]
    simp only [renameKey_inj hold hcell hcolumn]
    split <;> rfl

/-- Names of a dataset keep apart, so no cell of a renamed row takes the place of another one. -/
theorem cells_rename (hrow : row.Named oldId) :
    (row.rename (renameKey oldId newId)).cells =
      row.cells.map (Prod.map (renameKey oldId newId) id) := by
  have hnames : (row.cells.map (Prod.map (renameKey oldId newId) id)).map Prod.fst =
      row.columns.map (renameKey oldId newId) := by
    rw [List.map_map, columns, List.map_map]
    rfl
  refine cells_insertAll empty ?_
  rw [hnames]
  exact List.Nodup.map_on (fun _ hname _ hname' h =>
    (renameKey_inj hold (hrow _ hname) (hrow _ hname')).mp h) row.nodup

/-- **A cell of the renamed row is that of the row.** -/
theorem get?_rename {column : String} (hrow : row.Named oldId) (hcolumn : IsName oldId column) :
    (row.rename (renameKey oldId newId)).get? (renameKey oldId newId column) =
      row.get? column := by
  have hnamed : ∀ cell ∈ row.cells, IsName oldId cell.1 := fun cell hcell =>
    hrow cell.1 (List.mem_map_of_mem hcell)
  rw [get?, get?, cells_rename hold hrow]
  generalize row.cells = cells at hnamed
  induction cells with
  | nil => rfl
  | cons cell cells ih =>
    obtain ⟨hcell, hcells⟩ := List.forall_mem_cons.mp hnamed
    rw [List.map_cons, Prod.map, lookup_cons_eq_ite, lookup_cons_eq_ite, ih hcells]
    simp only [renameKey_inj hold hcolumn hcell]
    rfl

omit hold in
theorem Named.insert {column : String} {value : FieldValue} (hrow : row.Named oldId)
    (hcolumn : IsName oldId column) : (row.insert column value).Named oldId := by
  intro name hname
  rw [columns_insert] at hname
  split at hname
  · exact hrow name hname
  · obtain hname | hname := List.mem_append.mp hname
    · exact hrow name hname
    · exact List.mem_singleton.mp hname ▸ hcolumn

omit hold in
theorem Named.insertAll (hrow : row.Named oldId) (hcells : ∀ cell ∈ cells, IsName oldId cell.1) :
    (row.insertAll cells).Named oldId := by
  induction cells generalizing row with
  | nil => exact hrow
  | cons cell cells ih =>
    obtain ⟨hcell, hcells⟩ := List.forall_mem_cons.mp hcells
    exact ih (hrow.insert hcell) hcells

/-- **Cells that are set one after the other meet the same cells when all are renamed.** -/
theorem insertAll_rename (hrow : row.Named oldId) (hcells : ∀ cell ∈ cells, IsName oldId cell.1) :
    (row.rename (renameKey oldId newId)).insertAll
        (cells.map (Prod.map (renameKey oldId newId) id)) =
      (row.insertAll cells).rename (renameKey oldId newId) := by
  induction cells generalizing row with
  | nil => rfl
  | cons cell cells ih =>
    obtain ⟨hcell, hcells⟩ := List.forall_mem_cons.mp hcells
    have hinserted : (row.insert cell.1 cell.2).Named oldId := hrow.insert hcell
    have hinsert : (row.rename (renameKey oldId newId)).insert (renameKey oldId newId cell.1)
        cell.2 = (row.insert cell.1 cell.2).rename (renameKey oldId newId) := by
      refine Row.ext ?_
      rw [cells_rename hold hinserted, cells_insert, cells_insert, cells_rename hold hrow]
      exact setCell_rename hold hcell fun other hother =>
        hrow other.1 (List.mem_map_of_mem hother)
    have hrest := ih hinserted hcells
    rw [← hinsert] at hrest
    exact hrest

end

end Row

section

variable {ι ι' : Type} {cell : ι → Except Defect (String × FieldValue)} {items : List ι} {row : Row}
  (hrow : row.Named oldId)
  (hnamed : ∀ item ∈ items, ∀ found, cell item = .ok found → IsName oldId found.1)

include hnamed

/-- Cells have names of the dataset if each of them has. -/
theorem isName_of_mapM {cells : List (String × FieldValue)} (h : items.mapM cell = .ok cells) :
    ∀ found ∈ cells, IsName oldId found.1 := by
  intro found hfound
  obtain ⟨item, hitem, hcell⟩ := exists_of_mem_forall₂ (mapM_eq_ok_iff.mp h) hfound
  exact hnamed item hitem found hcell

include hrow

/-- A row that is filled with one cell for each item of a list has names of the dataset. -/
theorem Row.named_of_fill {filled : Row}
    (h : (do let cells ← items.mapM cell; return row.insertAll cells) = Except.ok filled) :
    filled.Named oldId := by
  obtain ⟨cells, hcells, h⟩ := bind_eq_ok_iff.mp h
  rw [← pure_eq_ok_iff.mp h]
  exact hrow.insertAll (isName_of_mapM hnamed hcells)

/-- A row that is filled with one cell for each item of a list is renamed if all cells are. -/
theorem Row.fill_rename (hold : keySeparator ∉ oldId.toList)
    {cell' : ι' → Except Defect (String × FieldValue)} {move : ι → ι'}
    (hcell : ∀ item ∈ items, cell' (move item) =
      bimap (Prod.map (renameKey oldId newId) id) (Defect.moveTo oldId newId) (cell item)) :
    (do
      let cells ← (items.map move).mapM cell'
      return (row.rename (renameKey oldId newId)).insertAll cells) =
      bimap (Row.rename (renameKey oldId newId)) (Defect.moveTo oldId newId)
        (do let cells ← items.mapM cell; return row.insertAll cells) :=
  bind_bimap (mapM_bimap hcell) fun _ hcells =>
    congrArg Except.ok (Row.insertAll_rename hold hrow (isName_of_mapM hnamed hcells))

end

theorem Row.named_empty : Row.empty.Named oldId :=
  fun _ h => absurd h List.not_mem_nil

/-! ### The rows of a run -/

section

variable {columns : List Column} (hcolumns : ∀ column ∈ columns, column.IsOf oldId)

include hcolumns

/-- A cell that is found for a column has its name. -/
theorem isName_of_map {value : Except Defect FieldValue} {column : Column}
    (hcolumn : column ∈ columns) {found : String × FieldValue}
    (h : value.map (fun value => (column.name, value)) = .ok found) :
    IsName oldId found.1 := by
  obtain ⟨_, -, rfl⟩ := map_eq_ok_iff.mp h
  exact (hcolumns column hcolumn).isName

theorem Row.named_project {row projected : Row} (h : row.project columns = .ok projected) :
    projected.Named oldId :=
  Row.named_of_fill Row.named_empty
    (fun _ hcolumn _ hfound => isName_of_map hcolumns hcolumn hfound) h

theorem named_recordRow {record : α} {row : Row} (h : recordRow columns record = .ok row) :
    row.Named oldId :=
  Row.named_of_fill Row.named_empty
    (fun _ hcolumn _ hfound => isName_of_map hcolumns hcolumn hfound) h

variable (hold : keySeparator ∉ oldId.toList)

include hold

/-- **A renamed row is projected to the renamed columns.** -/
theorem Row.project_rename {row : Row} (hrow : row.Named oldId) :
    (row.rename (renameKey oldId newId)).project (columns.map (Column.moveTo newId)) =
      bimap (Row.rename (renameKey oldId newId)) (Defect.moveTo oldId newId)
        (row.project columns) := by
  refine Row.fill_rename Row.named_empty
    (fun _ hcolumn _ hfound => isName_of_map hcolumns hcolumn hfound) hold fun column hcolumn => ?_
  have hname := hcolumns column hcolumn
  rw [hname.name_moveTo hold, Row.get?_rename hold hrow hname.isName]
  exact map_bimap (orDefect_moveTo rfl) fun _ => rfl

/-- **A record has the renamed row in the renamed columns.** -/
theorem recordRow_rename (record : α) :
    recordRow (columns.map (Column.moveTo newId)) record =
      bimap (Row.rename (renameKey oldId newId)) (Defect.moveTo oldId newId)
        (recordRow columns record) := by
  refine Row.fill_rename Row.named_empty
    (fun _ hcolumn _ hfound => isName_of_map hcolumns hcolumn hfound) hold fun column hcolumn => ?_
  unfold recordCell
  rw [(hcolumns column hcolumn).name_moveTo hold]
  cases column with
  | field key => exact map_bimap (orDefect_moveTo rfl) fun _ => rfl
  | applied name => exact map_bimap (orDefect_moveTo rfl) fun _ => rfl

end

section

variable {transformations : Transformations} (hnamed : transformations.Named oldId)
  {group : Group α}

include hnamed

omit [HasFields α] in
theorem isName_of_mem_keyCells {cell : String × FieldValue}
    (h : cell ∈ (transformations.group.map FieldKey.key).zip group.key) : IsName oldId cell.1 := by
  obtain ⟨key, hkey, hcell⟩ := List.mem_map.mp (List.of_mem_zip h).1
  exact hcell ▸ FieldKey.isName (hnamed.keys key hkey)

theorem isName_of_applyCell {rule : ApplyRule} (hrule : rule ∈ transformations.apply)
    {found : String × FieldValue}
    (h : (do let value ← rule.evaluate group.members; return (rule.name, value)) =
      Except.ok found) : IsName oldId found.1 := by
  obtain ⟨value, -, h⟩ := bind_eq_ok_iff.mp h
  rw [← pure_eq_ok_iff.mp h]
  exact .plain (hnamed.plain rule hrule)

theorem named_aggregateRow {row : Row} (h : aggregateRow transformations group = .ok row) :
    row.Named oldId :=
  Row.named_of_fill
    (Row.named_empty.insertAll fun _ hcell => isName_of_mem_keyCells hnamed hcell)
    (fun _ hrule _ hfound => isName_of_applyCell hnamed hrule hfound) h

/-- **A group has the renamed cells.** -/
theorem aggregateRow_rename (hold : keySeparator ∉ oldId.toList) :
    aggregateRow (transformations.moveTo newId) group =
      bimap (Row.rename (renameKey oldId newId)) (Defect.moveTo oldId newId)
        (aggregateRow transformations group) := by
  have hkeys : ((transformations.moveTo newId).group.map FieldKey.key).zip group.key =
      ((transformations.group.map FieldKey.key).zip group.key).map
        (Prod.map (renameKey oldId newId) id) := by
    rw [← List.zip_map_left, List.map_map, Transformations.moveTo, List.map_map]
    refine congrArg (List.zip · group.key) (List.map_congr_left fun key hkey => ?_)
    exact FieldKey.key_moveTo hold (hnamed.keys key hkey)
  have hcells : ∀ cell ∈ (transformations.group.map FieldKey.key).zip group.key,
      IsName oldId cell.1 := fun _ hcell => isName_of_mem_keyCells hnamed hcell
  rw [aggregateRow, aggregateRow, hkeys]
  have hempty : Row.empty.rename (renameKey oldId newId) = Row.empty := rfl
  rw [← hempty, Row.insertAll_rename hold Row.named_empty hcells]
  refine Row.fill_rename (Row.named_empty.insertAll hcells)
    (fun _ hrule _ hfound => isName_of_applyCell hnamed hrule hfound) hold fun rule hrule => ?_
  refine bind_bimap (ApplyRule.evaluate_moveTo rule group.members) fun value _ => ?_
  exact congrArg (fun name => Except.ok (name, value))
    (renameKey_of_plain (hnamed.plain rule hrule)).symm

end

/-! ### Sorting -/

theorem Order.keys_mapKeys (f : String → String) (order : Order) :
    (order.mapKeys f).keys = order.keys.map f := by
  cases order <;> rfl

theorem Order.direction_mapKeys (f : String → String) (order : Order) :
    (order.mapKeys f).direction = order.direction := by
  cases order <;> rfl

/-- **Renamed rows are sorted as the rows are.** -/
theorem sortRows_rename (hold : keySeparator ∉ oldId.toList) {order : Order} {rows : List Row}
    (hrows : ∀ row ∈ rows, row.Named oldId) (hkeys : ∀ key ∈ order.keys, IsName oldId key) :
    sortRows (order.mapKeys (renameKey oldId newId))
        (rows.map (Row.rename (renameKey oldId newId))) =
      (sortRows order rows).map (Row.rename (renameKey oldId newId)) := by
  -- What a row is sorted by is the same list of values on both sides.
  have hvalues : (rows.map (Row.rename (renameKey oldId newId))).map
        (fun row => ((order.mapKeys (renameKey oldId newId)).keys.map row.get?, row)) =
      (rows.map fun row => (order.keys.map row.get?, row)).map
        (Prod.map id (Row.rename (renameKey oldId newId))) := by
    rw [List.map_map, List.map_map]
    refine List.map_congr_left fun row hrow => Prod.ext ?_ rfl
    rw [Order.keys_mapKeys]
    refine List.map_map.trans (List.map_congr_left fun key hkey => ?_)
    exact Row.get?_rename hold (hrows row hrow) (hkeys key hkey)
  rw [sortRows, sortRows, hvalues, insertionSort_map, Order.direction_mapKeys, List.map_map,
    List.map_map]
  rfl

/-! ### Runs -/

section

variable {columns : List Column} (hcolumns : ∀ column ∈ columns, column.IsOf oldId)

include hcolumns

theorem named_of_recordRows {limit : Nat} {matched : List α} {rows : List Row}
    (h : recordRows columns limit matched = .ok rows) : ∀ row ∈ rows, row.Named oldId := by
  obtain ⟨-, -, h⟩ := bind_eq_ok_iff.mp h
  intro row hrow
  obtain ⟨record, -, hrecord⟩ :=
    exists_of_mem_forall₂ (mapM_eq_ok_iff.mp (mapError_eq_ok_iff.mp h)) hrow
  exact named_recordRow hcolumns hrecord

theorem named_of_groupRows {transformations : Transformations} {limit : Nat} {matched : List α}
    {rows : List Row} (h : groupRows transformations columns limit matched = .ok rows) :
    ∀ row ∈ rows, row.Named oldId := by
  obtain ⟨_, -, h⟩ := bind_eq_ok_iff.mp h
  obtain ⟨-, -, h⟩ := bind_eq_ok_iff.mp h
  obtain ⟨_, -, h⟩ := bind_eq_ok_iff.mp h
  intro row hrow
  obtain ⟨_, -, hprojected⟩ :=
    exists_of_mem_forall₂ (mapM_eq_ok_iff.mp (mapError_eq_ok_iff.mp h)) hrow
  exact Row.named_project hcolumns hprojected

variable (hold : keySeparator ∉ oldId.toList)

include hold

theorem recordRows_rename (limit : Nat) (matched : List α) :
    recordRows (columns.map (Column.moveTo newId)) limit matched =
      bimap (List.map (Row.rename (renameKey oldId newId))) (ExecutionError.moveTo oldId newId)
        (recordRows columns limit matched) := by
  refine bind_bimap (checkLimit_moveTo matched.length limit) fun _ _ => liftDefect_bimap ?_
  exact mapM_bimap_same fun record _ => recordRow_rename hcolumns hold record

theorem groupRows_rename {transformations : Transformations}
    (hnamed : transformations.Named oldId) (limit : Nat) (matched : List α) :
    groupRows (transformations.moveTo newId) (columns.map (Column.moveTo newId)) limit matched =
      bimap (List.map (Row.rename (renameKey oldId newId))) (ExecutionError.moveTo oldId newId)
        (groupRows transformations columns limit matched) := by
  refine bind_bimap (liftDefect_bimap (groupRecords_moveTo transformations.group matched))
    fun groups _ => ?_
  refine bind_bimap (checkLimit_moveTo groups.length limit) fun _ _ => ?_
  refine bind_bimap (liftDefect_bimap (mapM_bimap_same fun group _ =>
    aggregateRow_rename hnamed hold)) fun rows hok => liftDefect_bimap ?_
  refine mapM_bimap fun row hrow => Row.project_rename hcolumns hold ?_
  obtain ⟨group, -, hgroup⟩ :=
    exists_of_mem_forall₂ (mapM_eq_ok_iff.mp (mapError_eq_ok_iff.mp hok)) hrow
  exact named_aggregateRow hnamed hgroup

end

/-- A result with the images of its columns, in its list of columns and in its rows. -/
def Output.rename (f : String → String) (output : Output) : Output :=
  ⟨output.columns.map f, output.rows.map (Row.rename f), output.recordsScanned⟩

theorem Query.sorted_rename {query : Query} {rows : List Row} (hnamed : query.Named)
    (hplain : keySeparator ∉ query.datasetId.toList)
    (hshown : ∀ order ∈ query.order, ∀ key ∈ order.keys, key ∈ query.columnNames)
    (hrows : ∀ row ∈ rows, row.Named query.datasetId) :
    (query.moveTo newId).sorted (rows.map (Row.rename (renameKey query.datasetId newId))) =
      (query.sorted rows).map (Row.rename (renameKey query.datasetId newId)) := by
  rw [sorted, sorted, moveTo]
  cases horder : query.order with
  | none => rfl
  | some order =>
    refine sortRows_rename hplain hrows fun key hkey => ?_
    obtain ⟨column, hcolumn, rfl⟩ := List.mem_map.mp (hshown order horder key hkey)
    exact (hnamed.isOf column hcolumn).isName

/-- **A renamed query comes to the renamed outcome.** -/
theorem execute_moveTo {query : Query} (hnamed : query.Named)
    (hplain : keySeparator ∉ query.datasetId.toList)
    (hshown : ∀ order ∈ query.order, ∀ key ∈ order.keys, key ∈ query.columnNames)
    (records : List α) (limit : Nat) :
    execute (query.moveTo newId) records limit =
      bimap (Output.rename (renameKey query.datasetId newId))
        (ExecutionError.moveTo query.datasetId newId) (execute query records limit) := by
  have hcolumns := hnamed.isOf
  have hnames : (query.moveTo newId).columnNames =
      query.columnNames.map (renameKey query.datasetId newId) := map_name_moveTo hcolumns hplain
  -- Once the rows are there, nothing can fail any more.
  have houtput {rows : List Row} (hrows : ∀ row ∈ rows, row.Named query.datasetId) :
      Output.mk (query.moveTo newId).columnNames
          ((query.moveTo newId).sorted (rows.map (Row.rename (renameKey query.datasetId newId))))
          records.length =
        Output.rename (renameKey query.datasetId newId)
          ⟨query.columnNames, query.sorted rows, records.length⟩ := by
    rw [hnames, Query.sorted_rename hnamed hplain hshown hrows]
    rfl
  have hgroups := hnamed.transformations
  obtain ⟨oldId, filter, columns, order, transformations⟩ := query
  refine bind_bimap (liftDefect_bimap (filter.evaluate_moveTo records)) fun matched _ => ?_
  cases transformations with
  | none =>
    exact bind_bimap (recordRows_rename hcolumns hplain limit matched) fun rows hrows =>
      congrArg Except.ok (houtput (named_of_recordRows hcolumns hrows))
  | some transformations =>
    exact bind_bimap (groupRows_rename hcolumns hplain (hgroups _ rfl) limit matched)
      fun rows hrows => congrArg Except.ok (houtput (named_of_groupRows hcolumns hrows))

/-- Defects of decimal arithmetic do not speak of a dataset. -/
theorem Defect.Arithmetic.moveTo_eq {cause : Defect} (h : cause.Arithmetic) :
    cause.moveTo oldId newId = cause := by
  cases h <;> rfl

/-- **Queries do not depend on the id of their dataset.** If a tree is accepted, and the dataset
gets another valid id, then the tree with the new id in its keys is accepted, as the query to the
dataset of that id. Run over the same records, both queries come to the same outcome under the
renaming: to too many rows, to the same defect, or to the same values in the same rows in the same
order. Over records that have the fields of the schema, the error is the same without renaming. -/
theorem execute_renameQuery {tree : Json} {schema : Schema} {query : Query} {newId : String}
    (hquery : validate tree schema = .ok query) (hnew : isValidId newId = true) :
    validate (tree.renameQuery (renameKey query.datasetId newId)) schema =
        .ok (query.moveTo newId) ∧
      ∀ (α : Type) [HasFields α] (records : List α) (limit : Nat),
        execute (query.moveTo newId) records limit =
          bimap (Output.rename (renameKey query.datasetId newId))
            (ExecutionError.moveTo query.datasetId newId) (execute query records limit) ∧
        ((∀ record ∈ records, Conforms schema record) →
          execute (query.moveTo newId) records limit =
            (execute query records limit).map
              (Output.rename (renameKey query.datasetId newId))) := by
  have hspells := validate_eq_ok_iff.mp hquery
  refine ⟨validate_eq_ok_iff.mpr (hspells.moveTo hnew), fun α _ records limit => ?_⟩
  have hmoved : execute (query.moveTo newId) records limit = bimap _ _ _ :=
    execute_moveTo hspells.named hspells.plain hspells.shown records limit
  refine ⟨hmoved, fun hrecords => hmoved.trans ?_⟩
  obtain ⟨output, h⟩ | ⟨rows, -, h⟩ | ⟨cause, h, harithmetic, -⟩ :=
    execute_outcome limit hspells.wellTyped hrecords
  · rw [h]
    rfl
  · rw [h]
    rfl
  · rw [h]
    exact congrArg (fun cause => Except.error (ExecutionError.defect cause)) harithmetic.moveTo_eq

/-- Two departments with one aggregate, sorted. The new id is the name of the aggregate, and the
word before the separator in the pattern is the old id; both stay what they are. -/
theorem execute_renameQuery_grouped :
    let tree (id : String) : Json := .object [("OPTIONS", .object [("COLUMNS", .array
        [.string (id ++ "_dept"), .string "best"]), ("ORDER", .object [("dir", .string "DOWN"),
        ("keys", .array [.string "best", .string (id ++ "_dept")])])]),
      ("TRANSFORMATIONS", .object [("APPLY", .array [.object [("best", .object
        [("MAX", .string (id ++ "_avg"))])]]), ("GROUP", .array [.string (id ++ "_dept")])]),
      ("WHERE", .object [("NOT", .object [("IS", .object
        [(id ++ "_title", .string "s_*")])])])]
    let query (id : String) : Query := ⟨id, .not (.accepts ⟨id, "title"⟩ ⟨false, ['s', '_'], true⟩),
      [.field ⟨id, "dept"⟩, .applied "best"], some (.multi .down ["best", id ++ "_dept"]),
      some ⟨[⟨id, "dept"⟩], [⟨"best", .max, ⟨id, "avg"⟩⟩]⟩⟩
    let records : List Attributes := [
      ⟨[("title", .text "t"), ("dept", .text "a"), ("avg", .number .zero)]⟩,
      ⟨[("title", .text "t"), ("dept", .text "b"), ("avg", .number .zero)]⟩]
    let output (id : String) : Output := ⟨[id ++ "_dept", "best"],
      [Row.empty.insertAll [(id ++ "_dept", .text "b"), ("best", .number .zero)],
        Row.empty.insertAll [(id ++ "_dept", .text "a"), ("best", .number .zero)]], 2⟩
    validate (tree "s") Schema.sections = .ok (query "s") ∧
      (tree "s").renameQuery (renameKey "s" "best") = tree "best" ∧
      validate (tree "best") Schema.sections = .ok (query "best") ∧
      execute (query "s") records 5 = .ok (output "s") ∧
      execute (query "best") records 5 = .ok (output "best") := by
  intro tree query records output
  have hquery : validate (tree "s") Schema.sections = .ok (query "s") := by rfl
  have htree : (tree "s").renameQuery (renameKey "s" "best") = tree "best" := by rfl
  have hmoved : (query "s").moveTo "best" = query "best" := by rfl
  have hrun : execute (query "s") records 5 = .ok (output "s") := by rfl
  obtain ⟨hvalid, hruns⟩ := execute_renameQuery hquery (by decide : isValidId "best" = true)
  refine ⟨hquery, htree, ?_, hrun, ?_⟩
  · rw [← hmoved, ← htree]
    exact hvalid
  · rw [← hmoved, (hruns Attributes records 5).1, hrun]
    rfl

end Registrar
