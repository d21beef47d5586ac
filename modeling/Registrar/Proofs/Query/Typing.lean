import Registrar.Dataset.Record
import Registrar.Proofs.Query.Spelling

/-!
# Well-typed queries

A query is well typed for a schema if everything it looks up is there: every key names a field of
the schema, of the kind that is wanted where it stands, and every column of a query with groups is a
group key or the name of an aggregate. Trees that are accepted spell well-typed queries.

A record conforms to a schema if it has the fields that the schema lists. The schema of a kind of
datasets and the fields of its records are two separate tables; that they agree is proved here.

## Main definitions

* `Filter.WellTyped`, `Column.WellTyped`, `Query.WellTyped` — what is looked up is there.
* `Conforms` — a record has the fields of a schema.

## Main results

* `SpellsQuery.wellTyped` — accepted queries are well typed.
* `Record.conforms` — records conform to the schema of their kind.
-/

namespace Registrar

variable {engine : ExpressionEngine} {schema : Schema}

/-! ### Keys -/

/-- A key names a field of the schema. -/
def FieldKey.Typed (schema : Schema) (wanted : Option FieldKind) (key : FieldKey) : Prop :=
  ∃ kind, schema.fieldKind? key.field = some kind ∧ ∀ expected ∈ wanted, kind = expected

theorem SpellsKey.typed {context : KeyContext} {value : Json} {key : FieldKey}
    (h : SpellsKey context value key) : key.Typed context.schema none := by
  obtain ⟨text, -, hnames⟩ := h
  exact hnames.typed

/-! ### Filters -/

/-- Numbers are compared with measures, and patterns with texts. -/
inductive Filter.WellTyped (schema : Schema) : Filter → Prop where
  | all : WellTyped schema .all
  | not {inner : Filter} (h : WellTyped schema inner) : WellTyped schema (.not inner)
  | and {branches : List Filter} (h : ∀ branch ∈ branches, WellTyped schema branch) :
      WellTyped schema (.and branches)
  | or {branches : List Filter} (h : ∀ branch ∈ branches, WellTyped schema branch) :
      WellTyped schema (.or branches)
  | compare {op : Comparator} {key : FieldKey} {operand : Binary64}
      (h : key.Typed schema (some .measure)) : WellTyped schema (.compare op key operand)
  | accepts {key : FieldKey} {pattern : Pattern} (h : key.Typed schema (some .text)) :
      WellTyped schema (.accepts key pattern)

mutual

theorem SpellsFilter.wellTyped {context : KeyContext} {value : Json} {filter : Filter}
    (h : SpellsFilter engine context value filter) : filter.WellTyped context.schema := by
  cases h with
  | all => exact .all
  | not inner => exact .not inner.wellTyped
  | and _ branches => exact .and branches.wellTyped
  | or _ branches => exact .or branches.wellTyped
  | accepts known _ => exact .accepts known.typed
  | compare _ known _ => exact .compare known.typed

theorem SpellsFilters.wellTyped {context : KeyContext} {items : List Json} {filters : List Filter}
    (h : SpellsFilters engine context items filters) :
    ∀ filter ∈ filters, filter.WellTyped context.schema := by
  cases h with
  | nil => simp
  | cons first others => exact List.forall_mem_cons.mpr ⟨first.wellTyped, others.wellTyped⟩

end

/-! ### Groups and columns -/

/-- Group keys and aggregates name fields, and all aggregates but the count name measures. -/
structure Transformations.WellTyped (schema : Schema) (transformations : Transformations) :
    Prop where
  group : ∀ key ∈ transformations.group, key.Typed schema none
  apply : ∀ rule ∈ transformations.apply, rule.key.Typed schema rule.aggregate.wanted

/-- The names of the cells that a group has. -/
def Transformations.cellNames (transformations : Transformations) : List String :=
  transformations.group.map FieldKey.key ++ transformations.apply.map ApplyRule.name

/-- A column is a cell of the groups, or a field of the records if there are no groups. -/
def Column.WellTyped (schema : Schema) :
    Option Transformations → Column → Prop
  | some transformations, column => column.name ∈ transformations.cellNames
  | none, .field key => key.Typed schema none
  | none, .applied _ => False

/-- Everything that a query looks up is there. -/
structure Query.WellTyped (schema : Schema) (query : Query) : Prop where
  filter : query.filter.WellTyped schema
  transformations : ∀ transformations ∈ query.transformations, transformations.WellTyped schema
  columns : ∀ column ∈ query.columns, column.WellTyped schema query.transformations

theorem SpellsTransformations.wellTyped {context : KeyContext} {value : Json}
    {transformations : Transformations} (h : SpellsTransformations context value transformations) :
    transformations.WellTyped context.schema := by
  obtain ⟨-, -, hkeys, hrules, -⟩ := h
  constructor
  · intro key hkey
    obtain ⟨value, -, hvalue⟩ := exists_of_mem_forall₂ hkeys hkey
    exact hvalue.typed
  · intro rule hrule
    obtain ⟨value, -, hvalue⟩ := exists_of_mem_forall₂ hrules hrule
    obtain ⟨-, -, -, target⟩ := hvalue
    exact target.typed

theorem SpellsColumn.wellTyped {context : KeyContext} {transformations : Option Transformations}
    {value : Json} {column : Column} (h : SpellsColumn context transformations value column) :
    column.WellTyped context.schema transformations := by
  cases h with
  | field known => exact known.typed
  | group found =>
    exact List.mem_append_left _ (List.mem_map_of_mem (List.mem_of_find?_eq_some found))
  | applied _ found => exact List.mem_append_right _ found

/-- **Accepted queries are well typed.** -/
theorem SpellsQuery.wellTyped {tree : Json} {query : Query}
    (h : SpellsQuery engine schema tree query) :
    query.WellTyped schema := by
  obtain ⟨-, -, -, -, -, -, htransformations, -, hcolumns, -, hfilter⟩ := h
  refine ⟨hfilter.wellTyped, fun found hfound => ?_, fun column hcolumn => ?_⟩
  · obtain rfl : _ = some found := hfound
    obtain ⟨value, -, hvalue⟩ := exists_of_rel_some htransformations
    exact hvalue.wellTyped
  · obtain ⟨value, -, hvalue⟩ := exists_of_mem_forall₂ hcolumns hcolumn
    exact hvalue.wellTyped

/-! ### Records -/

/-- A record has the fields of a schema, with values of their kinds. -/
def Conforms {α : Type} [HasFields α] (schema : Schema) (record : α) : Prop :=
  ∀ name kind, schema.fieldKind? name = some kind →
    ∃ value, field? record name = some value ∧ value.kind = kind

theorem Conforms.field? {α : Type} [HasFields α] {record : α} {wanted : Option FieldKind}
    {key : FieldKey} (h : Conforms schema record) (hkey : key.Typed schema wanted) :
    ∃ value, HasFields.field? record key.field = some value ∧
      ∀ expected ∈ wanted, value.kind = expected := by
  obtain ⟨kind, hkind, hwanted⟩ := hkey
  obtain ⟨value, hvalue, rfl⟩ := h key.field kind hkind
  exact ⟨value, hvalue, hwanted⟩

theorem Schema.fieldKind?_eq_some_iff {name : String} {kind : FieldKind} :
    schema.fieldKind? name = some kind ↔ (name ∈ schema.measures ∧ kind = .measure) ∨
      (name ∉ schema.measures ∧ name ∈ schema.strings ∧ kind = .text) := by
  rw [Schema.fieldKind?]
  split
  · next h => simp [h, eq_comm]
  · next h =>
    split
    · next h' => simp [h, h', eq_comm]
    · next h' => simp [h, h']

theorem conforms_of_forall_mem {α : Type} [HasFields α] {record : α}
    (hmeasures : ∀ name ∈ schema.measures, ∃ value, field? record name = some (.number value))
    (hstrings : ∀ name ∈ schema.strings, ∃ value, field? record name = some (.text value)) :
    Conforms schema record := by
  intro name kind hkind
  obtain ⟨hname, rfl⟩ | ⟨-, hname, rfl⟩ := Schema.fieldKind?_eq_some_iff.mp hkind
  · obtain ⟨value, hvalue⟩ := hmeasures name hname
    exact ⟨.number value, hvalue, rfl⟩
  · obtain ⟨value, hvalue⟩ := hstrings name hname
    exact ⟨.text value, hvalue, rfl⟩

/-- **Records conform to the schema of their kind.** -/
theorem Record.conforms (record : Record) : Conforms record.kind.schema record := by
  cases record with
  | ofSection record =>
    exact conforms_of_forall_mem
      (by simp [Record.kind, DatasetKind.schema, Schema.sections, HasFields.field?, Record.field?,
        Section.field?])
      (by simp [Record.kind, DatasetKind.schema, Schema.sections, HasFields.field?, Record.field?,
        Section.field?])
  | ofRoom record =>
    exact conforms_of_forall_mem
      (by simp [Record.kind, DatasetKind.schema, Schema.rooms, HasFields.field?, Record.field?,
        Room.field?])
      (by simp [Record.kind, DatasetKind.schema, Schema.rooms, HasFields.field?, Record.field?,
        Room.field?])

end Registrar
