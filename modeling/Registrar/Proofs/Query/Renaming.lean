import Registrar.Proofs.Query.Accounting

/-!
# Queries under another id

A query names its dataset in every key, and nowhere else. If the dataset is stored under another id,
the query to it is written with that id in the keys: in the groups, the targets of the aggregates,
the columns, the order and the conditions of the filter. The names of aggregates and the patterns
stay.

A renamed tree is accepted if the tree was, and as the renamed query. The checks compare texts: the
columns with the group keys and the names of aggregates, the order with the columns. So the renaming
must not make two names equal that are not. What it works on are the *names* of a dataset, its keys
and the texts without a separator. Their border is the first separator, whatever else is in an id or
a field, and on them the renaming is injective.

## Main definitions

* `renameKey` — a text with another id, if it is a key of the dataset.
* `Json.renameQuery` — a query tree with its keys renamed, by their places in the grammar.
* `Query.moveTo` — a query with another dataset.

## Main results

* `renameKey_inj` — different names of a dataset stay different.
* `SpellsQuery.moveTo` — a renamed tree spells the renamed query.
-/

namespace Registrar

/-! ### Names -/

/-- A text with the new id in place of the old one, if it is a key with the old one. -/
def renameKey (id newId text : String) : String :=
  match splitKey? text with
  | some (found, field) => if found = id then qualify newId field else text
  | none => text

/-- What a column of a query to the dataset can be called: a key, or a text without a separator. -/
inductive IsName (id : String) : String → Prop where
  | key (field : String) : IsName id (qualify id field)
  | plain {name : String} (h : keySeparator ∉ name.toList) : IsName id name

variable {id newId : String}

theorem renameKey_qualify (hid : keySeparator ∉ id.toList) (newId field : String) :
    renameKey id newId (qualify id field) = qualify newId field := by
  rw [renameKey, splitKey?_eq_some_iff.mpr ⟨rfl, hid⟩]
  exact if_pos rfl

theorem renameKey_of_plain {name : String} (h : keySeparator ∉ name.toList) :
    renameKey id newId name = name := by
  rw [renameKey]
  split
  · next found field hsplit =>
    obtain ⟨rfl, -⟩ := splitKey?_eq_some_iff.mp hsplit
    exact absurd (FieldKey.separator_mem ⟨found, field⟩) h
  · rfl

/-- **Different names of a dataset stay different.** -/
theorem renameKey_inj (hid : keySeparator ∉ id.toList) {name other : String}
    (hname : IsName id name) (hother : IsName id other) :
    renameKey id newId name = renameKey id newId other ↔ name = other := by
  refine ⟨fun h => ?_, congrArg _⟩
  cases hname with
  | key field =>
    cases hother with
    | key field' =>
      rw [renameKey_qualify hid, renameKey_qualify hid] at h
      have hkey : FieldKey.mk newId field = ⟨newId, field'⟩ := FieldKey.ext_of_key rfl h
      rw [(FieldKey.mk.inj hkey).2]
    | plain hplain =>
      rw [renameKey_qualify hid, renameKey_of_plain hplain] at h
      exact absurd (h ▸ FieldKey.separator_mem ⟨newId, field⟩) hplain
  | plain hplain =>
    cases hother with
    | key field =>
      rw [renameKey_qualify hid, renameKey_of_plain hplain] at h
      exact absurd (h ▸ FieldKey.separator_mem ⟨newId, field⟩) hplain
    | plain hplain' => rwa [renameKey_of_plain hplain, renameKey_of_plain hplain'] at h

/-! ### Trees -/

namespace Json

/-- A text with its image in its place; other values stay. -/
def mapText (f : String → String) : Json → Json
  | .string text => .string (f text)
  | other => other

/-- An array with the images of its items; other values stay. -/
def mapItems (f : Json → Json) : Json → Json
  | .array items => .array (items.map f)
  | other => other

/-- An object with images of its values, which may depend on the names; other values stay. -/
def mapValues (f : String → Json → Json) : Json → Json
  | .object members => .object (members.map fun member => (member.1, f member.1 member.2))
  | other => other

/-- An object with the images of its names; other values stay. -/
def mapNames (f : String → String) : Json → Json
  | .object members => .object (members.map fun member => (f member.1, member.2))
  | other => other

variable (rename : String → String)

/-- An aggregate with its target renamed. Its name and its function stay. -/
def renameRule : Json → Json :=
  mapValues fun _ => mapValues fun _ => mapText rename

/-- Groups and aggregates with their keys renamed. -/
def renameTransformations : Json → Json :=
  mapValues fun name value =>
    if name = "GROUP" then value.mapItems (mapText rename)
    else if name = "APPLY" then value.mapItems (renameRule rename)
    else value

/-- An order with its keys renamed: a text, or the keys of an object. -/
def renameOrder : Json → Json
  | .string key => .string (rename key)
  | value => value.mapValues fun name value =>
      if name = "keys" then value.mapItems (mapText rename) else value

/-- An option with its keys renamed. -/
def renameOption (name : String) (value : Json) : Json :=
  if name = "COLUMNS" then value.mapItems (mapText rename)
  else if name = "ORDER" then value.renameOrder rename
  else value

mutual

/-- A filter with the keys of its conditions renamed. What a key is compared with stays. -/
def renameFilter : Json → Json
  | .object members => .object (renameNode members)
  | other => other

/-- The members of a filter. -/
def renameNode : List (String × Json) → List (String × Json)
  | [] => []
  | (tag, body) :: members =>
    (tag,
      if tag = "NOT" then renameFilter body
      else if tag = "AND" ∨ tag = "OR" then renameBranches body
      else body.mapNames rename) :: renameNode members

/-- The branches of a conjunction or disjunction. -/
def renameBranches : Json → Json
  | .array items => .array (renameFilters items)
  | other => other

/-- Filters, one after the other. -/
def renameFilters : List Json → List Json
  | [] => []
  | item :: items => renameFilter item :: renameFilters items

end

/-- A part of a query with its keys renamed. -/
def renamePart (name : String) (value : Json) : Json :=
  if name = "WHERE" then value.renameFilter rename
  else if name = "OPTIONS" then value.mapValues (renameOption rename)
  else if name = "TRANSFORMATIONS" then value.renameTransformations rename
  else value

/-- A query tree with its keys renamed. -/
def renameQuery : Json → Json :=
  mapValues (renamePart rename)

theorem renameFilters_ne_nil {items : List Json} (h : items ≠ []) :
    renameFilters rename items ≠ [] := by
  cases items with
  | nil => exact absurd rfl h
  | cons item items => exact List.cons_ne_nil _ _

end Json

/-! ### Queries -/

/-- The field of the same name in another dataset. -/
def FieldKey.moveTo (newId : String) (key : FieldKey) : FieldKey :=
  { key with datasetId := newId }

@[simp] theorem FieldKey.field_moveTo (key : FieldKey) : (key.moveTo newId).field = key.field :=
  rfl

mutual

/-- A filter over another dataset. -/
def Filter.moveTo (newId : String) : Filter → Filter
  | .all => .all
  | .not inner => .not (inner.moveTo newId)
  | .and branches => .and (Filter.moveAllTo newId branches)
  | .or branches => .or (Filter.moveAllTo newId branches)
  | .compare op key operand => .compare op (key.moveTo newId) operand
  | .accepts key pattern => .accepts (key.moveTo newId) pattern

/-- Filters over another dataset. -/
def Filter.moveAllTo (newId : String) : List Filter → List Filter
  | [] => []
  | branch :: branches => branch.moveTo newId :: Filter.moveAllTo newId branches

end

/-- A column with another dataset. -/
def Column.moveTo (newId : String) : Column → Column
  | .field key => .field (key.moveTo newId)
  | .applied name => .applied name

/-- An order by the images of the columns. -/
def Order.mapKeys (f : String → String) : Order → Order
  | .single key => .single (f key)
  | .multi direction keys => .multi direction (keys.map f)

/-- An aggregate over another dataset. -/
def ApplyRule.moveTo (newId : String) (rule : ApplyRule) : ApplyRule :=
  { rule with key := rule.key.moveTo newId }

/-- Groups and aggregates over another dataset. -/
def Transformations.moveTo (newId : String) (transformations : Transformations) :
    Transformations :=
  ⟨transformations.group.map (FieldKey.moveTo newId),
    transformations.apply.map (ApplyRule.moveTo newId)⟩

/-- A query to another dataset. -/
def Query.moveTo (newId : String) (query : Query) : Query :=
  ⟨newId, query.filter.moveTo newId, query.columns.map (Column.moveTo newId),
    query.order.map (Order.mapKeys (renameKey query.datasetId newId)),
    query.transformations.map (Transformations.moveTo newId)⟩

/-! ### The names of a query -/

theorem FieldKey.isName {key : FieldKey} (h : key.datasetId = id) : IsName id key.key :=
  h ▸ IsName.key key.field

theorem FieldKey.key_moveTo {key : FieldKey} (hid : keySeparator ∉ id.toList)
    (h : key.datasetId = id) : (key.moveTo newId).key = renameKey id newId key.key := by
  subst h
  exact (renameKey_qualify hid newId key.field).symm

/-- A column is a field of the dataset, or its name has no separator. -/
inductive Column.IsOf (id : String) : Column → Prop where
  | field {key : FieldKey} (h : key.datasetId = id) : IsOf id (.field key)
  | applied {name : String} (h : keySeparator ∉ name.toList) : IsOf id (.applied name)

theorem Column.IsOf.isName {column : Column} (h : column.IsOf id) : IsName id column.name := by
  cases h with
  | field h => exact FieldKey.isName h
  | applied h => exact .plain h

theorem Column.IsOf.name_moveTo {column : Column} (h : column.IsOf id)
    (hid : keySeparator ∉ id.toList) :
    (column.moveTo newId).name = renameKey id newId column.name := by
  cases h with
  | field h => exact FieldKey.key_moveTo hid h
  | applied h => exact (renameKey_of_plain h).symm

theorem map_name_moveTo {columns : List Column} (h : ∀ column ∈ columns, column.IsOf id)
    (hid : keySeparator ∉ id.toList) :
    (columns.map (Column.moveTo newId)).map Column.name =
      (columns.map Column.name).map (renameKey id newId) := by
  rw [List.map_map, List.map_map]
  exact List.map_congr_left fun column hcolumn => (h column hcolumn).name_moveTo hid

theorem Transformations.Named.plain_of_mem {transformations : Transformations}
    (h : transformations.Named id) {name : String}
    (hname : name ∈ transformations.apply.map ApplyRule.name) : keySeparator ∉ name.toList := by
  obtain ⟨rule, hrule, rfl⟩ := List.mem_map.mp hname
  exact h.plain rule hrule

theorem Query.Named.isOf {query : Query} (h : query.Named) :
    ∀ column ∈ query.columns, column.IsOf query.datasetId := by
  intro column hcolumn
  have hnamed := h.columns column hcolumn
  have hgroups := h.transformations
  cases htransformations : query.transformations with
  | none =>
    rw [htransformations] at hnamed
    cases column with
    | field key => exact .field hnamed
    | applied name => exact absurd hnamed not_false
  | some transformations =>
    have hgroups := hgroups transformations htransformations
    rw [htransformations] at hnamed
    cases column with
    | field key => exact .field (hgroups.keys key hnamed)
    | applied name => exact .applied (hgroups.plain_of_mem hnamed)

variable {engine : ExpressionEngine} {schema : Schema}

theorem SpellsQuery.plain {tree : Json} {query : Query} (h : SpellsQuery engine schema tree query) :
    keySeparator ∉ query.datasetId.toList := by
  obtain ⟨-, -, -, -, -, hvalid, -, -, -, -, -⟩ := h
  exact (isValidId_iff.mp hvalid).2

/-- The order of an accepted query is one by its columns. -/
theorem SpellsQuery.shown {tree : Json} {query : Query} (h : SpellsQuery engine schema tree query) :
    ∀ order ∈ query.order, ∀ key ∈ order.keys, key ∈ query.columnNames := by
  obtain ⟨-, -, -, -, -, -, -, -, -, horder, -⟩ := h
  intro found hfound
  obtain rfl : _ = some found := hfound
  obtain ⟨value, -, hvalue⟩ := exists_of_rel_some horder
  cases hvalue with
  | single shown => exact List.forall_mem_singleton.mpr shown
  | multi _ _ _ shown => exact shown

/-! ### Renamed trees spell renamed queries -/

section

variable (hid : keySeparator ∉ id.toList) (hnew : keySeparator ∉ newId.toList)

include hid hnew

theorem NamesField.moveTo {wanted : Option FieldKind} {text : String} {key : FieldKey}
    (h : NamesField ⟨id, schema⟩ wanted text key) :
    NamesField ⟨newId, schema⟩ wanted (renameKey id newId text) (key.moveTo newId) := by
  obtain ⟨hdataset, -, rfl, htyped⟩ := h
  exact ⟨rfl, hnew, (FieldKey.key_moveTo hid hdataset).symm, htyped⟩

theorem SpellsKey.moveTo {value : Json} {key : FieldKey} (h : SpellsKey ⟨id, schema⟩ value key) :
    SpellsKey ⟨newId, schema⟩ (value.mapText (renameKey id newId)) (key.moveTo newId) := by
  obtain ⟨text, rfl, hnames⟩ := h
  exact ⟨_, rfl, hnames.moveTo hid hnew⟩

theorem SpellsRule.moveTo {value : Json} {rule : ApplyRule}
    (h : SpellsRule ⟨id, schema⟩ value rule) :
    SpellsRule ⟨newId, schema⟩ (value.renameRule (renameKey id newId)) (rule.moveTo newId) := by
  obtain ⟨hnonempty, hplain, hknown, htarget⟩ := h
  exact .intro hnonempty hplain hknown (htarget.moveTo hid hnew)

theorem SpellsTransformations.moveTo {value : Json} {transformations : Transformations}
    (h : SpellsTransformations ⟨id, schema⟩ value transformations) :
    SpellsTransformations ⟨newId, schema⟩ (value.renameTransformations (renameKey id newId))
      (transformations.moveTo newId) := by
  obtain ⟨hparts, hne, hkeys, hrules, hdistinct⟩ := h
  refine .intro (hparts.map _) (by simpa using hne) ?_ ?_ ?_
  · rw [List.forall₂_map_left_iff, List.forall₂_map_right_iff]
    exact hkeys.imp fun _ _ hkey => hkey.moveTo hid hnew
  · rw [List.forall₂_map_left_iff, List.forall₂_map_right_iff]
    exact hrules.imp fun _ _ hrule => hrule.moveTo hid hnew
  · rwa [List.map_map]

omit hnew in
/-- A group key is found by its renamed text where it was found by its text. -/
theorem find?_moveTo {group : List FieldKey} (hgroup : ∀ key ∈ group, key.datasetId = id)
    {text : String} (htext : IsName id text) :
    (group.map (FieldKey.moveTo newId)).find? (fun key => key.key == renameKey id newId text) =
      (group.find? fun key => key.key == text).map (FieldKey.moveTo newId) := by
  induction group with
  | nil => rfl
  | cons key group ih =>
    obtain ⟨hkey, hgroup⟩ := List.forall_mem_cons.mp hgroup
    have hsame : ((key.moveTo newId).key == renameKey id newId text) = (key.key == text) := by
      rw [Bool.eq_iff_iff, beq_iff_eq, beq_iff_eq, FieldKey.key_moveTo hid hkey,
        renameKey_inj hid (FieldKey.isName hkey) htext]
    rw [List.map_cons, List.find?_cons, List.find?_cons, hsame, ih hgroup]
    split <;> rfl

theorem SpellsColumn.moveTo {transformations : Option Transformations} {value : Json}
    {column : Column} (h : SpellsColumn ⟨id, schema⟩ transformations value column)
    (htransformations : ∀ found ∈ transformations, found.Named id) :
    SpellsColumn ⟨newId, schema⟩ (transformations.map (Transformations.moveTo newId))
      (value.mapText (renameKey id newId)) (column.moveTo newId) := by
  cases h with
  | field known => exact .field (known.moveTo hid hnew)
  | @group transformations text key found =>
    have hgroup := (htransformations _ rfl).keys
    have htext : key.key = text := by simpa using List.find?_some found
    have hname : IsName id text :=
      htext ▸ FieldKey.isName (hgroup key (List.mem_of_find?_eq_some found))
    refine .group ((find?_moveTo hid hgroup hname).trans ?_)
    rw [found, Option.map_some]
  | @applied transformations name missing found =>
    have hplain := (htransformations _ rfl).plain_of_mem found
    rw [Json.mapText, renameKey_of_plain hplain]
    refine .applied (fun hmem => ?_) (by rwa [Transformations.moveTo, List.map_map])
    obtain ⟨_, hkey, rfl⟩ := List.mem_map.mp hmem
    obtain ⟨key, -, rfl⟩ := List.mem_map.mp hkey
    exact hplain (key.moveTo newId).separator_mem

omit hnew in
theorem SpellsOrder.moveTo {columns : List Column} {value : Json} {order : Order}
    (h : SpellsOrder columns value order) (hcolumns : ∀ column ∈ columns, column.IsOf id) :
    SpellsOrder (columns.map (Column.moveTo newId)) (value.renameOrder (renameKey id newId))
      (order.mapKeys (renameKey id newId)) := by
  cases h with
  | single shown =>
    refine .single ?_
    rw [map_name_moveTo hcolumns hid]
    exact List.mem_map_of_mem shown
  | @multi members dir direction keys parts known nonempty shown =>
    refine .multi ?_ known (by simpa using nonempty) ?_
    · have hparts := parts.map fun member =>
        (member.1, if member.1 = "keys" then
          member.2.mapItems (Json.mapText (renameKey id newId)) else member.2)
      simpa [Json.mapItems, Json.mapText, Function.comp_def] using hparts
    · rw [map_name_moveTo hcolumns hid]
      intro renamed hrenamed
      obtain ⟨key, hkey, rfl⟩ := List.mem_map.mp hrenamed
      exact List.mem_map_of_mem (shown key hkey)

end

mutual

theorem SpellsFilter.moveTo {value : Json} {filter : Filter} (hid : keySeparator ∉ id.toList)
    (hnew : keySeparator ∉ newId.toList) (h : SpellsFilter engine ⟨id, schema⟩ value filter) :
    SpellsFilter engine ⟨newId, schema⟩ (value.renameFilter (renameKey id newId))
      (filter.moveTo newId) := by
  cases h with
  | all => exact .all
  | not inner => exact .not (inner.moveTo hid hnew)
  | and nonempty branches =>
    exact .and (Json.renameFilters_ne_nil _ nonempty) (branches.moveTo hid hnew)
  | or nonempty branches =>
    exact .or (Json.renameFilters_ne_nil _ nonempty) (branches.moveTo hid hnew)
  | accepts known wellFormed compiled =>
    exact .accepts (known.moveTo hid hnew) wellFormed compiled
  | compare tagKnown known isNumber =>
    have hcompare := @SpellsFilter.compare engine _ _ _ _ _ _ _ tagKnown (known.moveTo hid hnew)
      isNumber
    -- The tag of a comparison is none of those with filters below them.
    unfold Comparator.ofTag? at tagKnown
    split at tagKnown
    · exact hcompare
    · exact hcompare
    · exact hcompare
    · cases tagKnown

theorem SpellsFilters.moveTo {items : List Json} {filters : List Filter}
    (hid : keySeparator ∉ id.toList) (hnew : keySeparator ∉ newId.toList)
    (h : SpellsFilters engine ⟨id, schema⟩ items filters) :
    SpellsFilters engine ⟨newId, schema⟩ (Json.renameFilters (renameKey id newId) items)
      (Filter.moveAllTo newId filters) := by
  cases h with
  | nil => exact .nil
  | cons first others => exact .cons (first.moveTo hid hnew) (others.moveTo hid hnew)

end

theorem rel_map {α β α' β' : Type} {r : α → β → Prop} {r' : α' → β' → Prop} {f : α → α'}
    {g : β → β'} {x : Option α} {y : Option β} (h : Option.Rel r x y)
    (himp : ∀ a b, r a b → r' (f a) (g b)) : Option.Rel r' (x.map f) (y.map g) := by
  cases h with
  | none => exact .none
  | some h => exact .some (himp _ _ h)

/-- **A renamed tree spells the renamed query.** -/
theorem SpellsQuery.moveTo {tree : Json} {query : Query} (h : SpellsQuery engine schema tree query)
    (hnew : isValidId newId = true) :
    SpellsQuery engine schema (tree.renameQuery (renameKey query.datasetId newId))
      (query.moveTo newId) := by
  have hid := h.plain
  have hgroups := h.named.transformations
  have hcolumnNames := h.named.isOf
  have hplain := (isValidId_iff.mp hnew).2
  obtain @⟨root, options, filterValue, values, id, filter, columns, order, transformations, hroot,
    hfilterValue, hoptionsValue, hoptions, hcolumnsValue, hvalid, htransformations, hne, hcolumns,
    horder, hfilter⟩ := h
  have hroots := Json.lookup_mapValues (Json.renamePart (renameKey id newId)) root
  have hoption := Json.lookup_mapValues (Json.renameOption (renameKey id newId)) options
  refine .intro (List.forall_mem_map.mpr hroot) ((hroots _).trans (congrArg _ hfilterValue))
    ((hroots _).trans (congrArg _ hoptionsValue)) (List.forall_mem_map.mpr hoptions)
    ((hoption _).trans (congrArg _ hcolumnsValue)) hnew ?_ (by simpa using hne) ?_ ?_
    (hfilter.moveTo hid hplain)
  · rw [hroots]
    exact rel_map htransformations fun _ _ hspells => hspells.moveTo hid hplain
  · rw [List.forall₂_map_left_iff, List.forall₂_map_right_iff]
    exact hcolumns.imp fun _ _ hcolumn => hcolumn.moveTo hid hplain hgroups
  · rw [hoption]
    exact rel_map horder fun _ _ hspells => hspells.moveTo hid hcolumnNames

end Registrar
