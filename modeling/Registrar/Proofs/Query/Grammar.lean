import Registrar.Proofs.Query.Spelling

/-!
# The query grammar

Which JSON trees are queries, said without queries: only names, texts, numbers and the schema occur.
The clauses depend on each other. One dataset id is shared by all keys, the columns of a query with
groups are among its group keys and aggregates, and the order is among the columns.

Reading a tree succeeds exactly for the trees of the grammar. The proof goes through the relation
between trees and queries: a tree is in the grammar exactly if there is a query that it spells, part
by part.

Which texts are patterns is left open in the grammar. Their stars have to be at their ends, but that
is not enough: the library of regular expressions that they are compiled with has a limit. So there
are two grammars. The one whose patterns are compiled is what is accepted, and a tree of the one
whose patterns have stars at their ends only is refused for nothing but the limit.

## Main definitions

* `IsKey`, `IsRule`, `IsTransformations`, `IsColumn`, `IsOrder`, `IsFilter` — the clauses.
* `IsQuery` — the grammar, for any choice of texts as patterns.
* `IsPattern` — the texts that a library takes as patterns.
* `Fault.Oversized` — the fault of a text that is a pattern, but beyond the limit.

## Main results

* `IsQuery.exists_validateWith_eq_map` — reading a tree of the grammar is reading its filter.
* `validateWith_isOk_iff` — exactly the trees of the grammar are accepted.
* `validate_plainText_ne_ok` — a tree that is refused for the length of a text.
-/

namespace Registrar

variable {engine : ExpressionEngine} {id : String} {schema : Schema}

/-! ### The clauses -/

/-- The text before the first separator. -/
def beforeSeparator (text : String) : String :=
  String.ofList (text.toList.takeWhile (· != keySeparator))

/-- A qualified key: the id, a separator and a field of the schema, of the wanted kind if there is
one. -/
def IsKey (id : String) (schema : Schema) (wanted : Option FieldKind) (text : String) : Prop :=
  ∃ field kind, text = id ++ "_" ++ field ∧ schema.fieldKind? field = some kind ∧
    ∀ expected ∈ wanted, kind = expected

/-- An aggregate of the given name: every token but `COUNT` wants a numeric field. -/
def IsRule (id : String) (schema : Schema) (value : Json) (name : String) : Prop :=
  ∃ token text, value = .object [(name, .object [(token, .string text)])] ∧
    name ≠ "" ∧ '_' ∉ name.toList ∧ token ∈ ["MAX", "MIN", "AVG", "SUM", "COUNT"] ∧
    IsKey id schema (if token = "COUNT" then none else some .measure) text

/-- Groups and aggregates: the group keys, at least one, and the names of the aggregates. -/
inductive IsTransformations (id : String) (schema : Schema) :
    Json → List String × List String → Prop where
  | intro {members : List (String × Json)} {keys names : List String} {rules : List Json}
      (parts : members.Perm [("GROUP", .array (keys.map .string)), ("APPLY", .array rules)])
      (nonempty : keys ≠ []) (known : ∀ key ∈ keys, IsKey id schema none key)
      (apply : List.Forall₂ (IsRule id schema) rules names) (distinct : names.Nodup) :
      IsTransformations id schema (.object members) (keys, names)

/-- A column: a group key or the name of an aggregate if there are groups, else a qualified key. -/
def IsColumn (id : String) (schema : Schema) (groups : Option (List String × List String))
    (text : String) : Prop :=
  match groups with
  | some (keys, names) => text ∈ keys ∨ text ∈ names
  | none => IsKey id schema none text

/-- An order: a column, or a direction with columns, at least one. -/
inductive IsOrder (columns : List String) : Json → Prop where
  | single {key : String} (shown : key ∈ columns) : IsOrder columns (.string key)
  | multi {members : List (String × Json)} {dir : String} {keys : List String}
      (parts : members.Perm [("dir", .string dir), ("keys", .array (keys.map .string))])
      (known : dir ∈ ["UP", "DOWN"]) (nonempty : keys ≠ []) (shown : ∀ key ∈ keys, key ∈ columns) :
      IsOrder columns (.object members)

/-- A whole number or any other number. -/
inductive IsNumber : Json → Prop where
  | integer (value : Int) : IsNumber (.integer value)
  | real (value : Binary64) : IsNumber (.real value)

/-- The texts that a library takes as patterns. -/
structure IsPattern (engine : ExpressionEngine) (text : String) : Prop where
  stars : StarsAtEnds text
  compiled : ∀ pattern, Pattern.ofText? text = some pattern → engine.Compiles pattern

/-- A filter, of any depth, with the given texts as patterns. -/
inductive IsFilter (patterns : String → Prop) (id : String) (schema : Schema) : Json → Prop where
  | all : IsFilter patterns id schema (.object [])
  | not {body : Json} (inner : IsFilter patterns id schema body) :
      IsFilter patterns id schema (.object [("NOT", body)])
  | and {items : List Json} (nonempty : items ≠ [])
      (branches : ∀ item ∈ items, IsFilter patterns id schema item) :
      IsFilter patterns id schema (.object [("AND", .array items)])
  | or {items : List Json} (nonempty : items ≠ [])
      (branches : ∀ item ∈ items, IsFilter patterns id schema item) :
      IsFilter patterns id schema (.object [("OR", .array items)])
  | accepts {key text : String} (known : IsKey id schema (some .text) key)
      (pattern : patterns text) :
      IsFilter patterns id schema (.object [("IS", .object [(key, .string text)])])
  | compare {tag key : String} {value : Json} (tagKnown : tag ∈ ["LT", "GT", "EQ"])
      (known : IsKey id schema (some .measure) key) (number : IsNumber value) :
      IsFilter patterns id schema (.object [(tag, .object [(key, value)])])

/-- A query, with the given texts as patterns. Its dataset is named by the first group key, or by
the first column if there are no groups. -/
inductive IsQuery (patterns : String → Prop) (schema : Schema) : Json → Prop where
  | intro {root options : List (String × Json)} {filter : Json} {columns rest : List String}
      {first : String} {groups : Option (List String × List String)}
      (rootNamed : ∀ member ∈ root, member.1 ∈ ["WHERE", "OPTIONS", "TRANSFORMATIONS"])
      (hasFilter : root.lookup "WHERE" = some filter)
      (hasOptions : root.lookup "OPTIONS" = some (.object options))
      (optionsNamed : ∀ member ∈ options, member.1 ∈ ["COLUMNS", "ORDER"])
      (hasColumns : options.lookup "COLUMNS" = some (.array (columns.map .string)))
      (firstKey : (groups.map Prod.fst).getD columns = first :: rest)
      (notBlank : isBlankText (beforeSeparator first) = false)
      (transformations : Option.Rel (IsTransformations (beforeSeparator first) schema)
        (root.lookup "TRANSFORMATIONS") groups)
      (nonempty : columns ≠ [])
      (shown : ∀ column ∈ columns, IsColumn (beforeSeparator first) schema groups column)
      (order : ∀ value ∈ options.lookup "ORDER", IsOrder columns value)
      (condition : IsFilter patterns (beforeSeparator first) schema filter) :
      IsQuery patterns schema (.object root)

/-! ### Keys -/

theorem isKey_iff {wanted : Option FieldKind} {text : String} (hid : keySeparator ∉ id.toList) :
    (∃ key, NamesField ⟨id, schema⟩ wanted text key) ↔ IsKey id schema wanted text := by
  constructor
  · rintro ⟨⟨dataset, field⟩, rfl, -, rfl, kind, hkind, hwanted⟩
    exact ⟨field, kind, rfl, hkind, hwanted⟩
  · rintro ⟨field, kind, rfl, hkind, hwanted⟩
    exact ⟨⟨id, field⟩, rfl, hid, rfl, kind, hkind, hwanted⟩

theorem separator_notMem_beforeSeparator (text : String) :
    keySeparator ∉ (beforeSeparator text).toList := by
  intro h
  rw [beforeSeparator, String.toList_ofList] at h
  simpa using List.mem_takeWhile_imp h

/-- The id can be read off every qualified key. -/
theorem IsKey.beforeSeparator {wanted : Option FieldKind} {text : String}
    (h : IsKey id schema wanted text) (hid : keySeparator ∉ id.toList) :
    Registrar.beforeSeparator text = id := by
  obtain ⟨field, kind, rfl, -, -⟩ := h
  have hall : ∀ c ∈ id.toList, (c != keySeparator) = true := fun c hc => by
    simpa using ne_of_mem_of_not_mem hc hid
  rw [Registrar.beforeSeparator, ← qualify, toList_qualify, List.takeWhile_append_of_pos hall]
  simp

/-! ### Groups -/

/-- The texts that the columns of a query with groups are among. -/
def Transformations.texts (transformations : Transformations) : List String × List String :=
  (transformations.group.map FieldKey.key, transformations.apply.map ApplyRule.name)

theorem ofText?_iff {token : String} {wanted : Option FieldKind} :
    (∃ aggregate, Aggregate.ofText? token = some aggregate ∧ aggregate.wanted = wanted) ↔
      token ∈ ["MAX", "MIN", "AVG", "SUM", "COUNT"] ∧
        (if token = "COUNT" then none else some .measure) = wanted := by
  constructor
  · rintro ⟨aggregate, htoken, rfl⟩
    unfold Aggregate.ofText? at htoken
    split at htoken <;> cases htoken <;> exact ⟨by decide, rfl⟩
  · simp only [List.mem_cons, List.not_mem_nil, or_false]
    rintro ⟨rfl | rfl | rfl | rfl | rfl, rfl⟩ <;> exact ⟨_, rfl, rfl⟩

theorem isRule_iff {value : Json} {name : String} (hid : keySeparator ∉ id.toList) :
    (∃ rule, SpellsRule ⟨id, schema⟩ value rule ∧ rule.name = name) ↔
      IsRule id schema value name := by
  constructor
  · rintro ⟨_, ⟨hnonempty, hplain, htoken, htarget⟩, rfl⟩
    obtain ⟨hmem, hwanted⟩ := ofText?_iff.mp ⟨_, htoken, rfl⟩
    exact ⟨_, _, rfl, hnonempty, hplain, hmem, hwanted ▸ (isKey_iff hid).mp ⟨_, htarget⟩⟩
  · rintro ⟨token, text, rfl, hnonempty, hplain, hmem, hkey⟩
    obtain ⟨aggregate, htoken, hwanted⟩ := ofText?_iff.mpr ⟨hmem, rfl⟩
    obtain ⟨key, hkey⟩ := (isKey_iff hid).mpr hkey
    exact ⟨_, .intro hnonempty hplain htoken (hwanted ▸ hkey), rfl⟩

/-- Spelling item by item, seen from an image of what is spelled. -/
theorem exists_forall₂_map_iff {α β γ : Type} {spells : α → β → Prop} (image : β → γ)
    {xs : List α} {zs : List γ} :
    (∃ ys, List.Forall₂ spells xs ys ∧ ys.map image = zs) ↔
      List.Forall₂ (fun x z => ∃ y, spells x y ∧ image y = z) xs zs := by
  constructor
  · rintro ⟨ys, h, rfl⟩
    induction h with
    | nil => exact .nil
    | cons hxy _ ih => exact .cons ⟨_, hxy, rfl⟩ ih
  · intro h
    induction h with
    | nil => exact ⟨[], .nil, rfl⟩
    | cons hxz _ ih =>
      obtain ⟨y, hxy, rfl⟩ := hxz
      obtain ⟨ys, hys, rfl⟩ := ih
      exact ⟨y :: ys, .cons hxy hys, rfl⟩

/-- Items that are texts with a property. -/
theorem forall₂_string_iff {P : String → Prop} {values : List Json} {texts : List String} :
    List.Forall₂ (fun value text => value = .string text ∧ P text) values texts ↔
      values = texts.map .string ∧ ∀ text ∈ texts, P text := by
  constructor
  · intro h
    induction h with
    | nil => simp
    | cons hvalue _ ih =>
      obtain ⟨rfl, hP⟩ := hvalue
      obtain ⟨rfl, hall⟩ := ih
      exact ⟨rfl, List.forall_mem_cons.mpr ⟨hP, hall⟩⟩
  · rintro ⟨rfl, hall⟩
    rw [List.forall₂_map_left_iff, List.forall₂_same]
    exact fun text htext => ⟨rfl, hall text htext⟩

theorem spellsKey_iff {value : Json} {text : String} (hid : keySeparator ∉ id.toList) :
    (∃ key, SpellsKey ⟨id, schema⟩ value key ∧ key.key = text) ↔
      value = .string text ∧ IsKey id schema none text := by
  rw [← isKey_iff hid]
  constructor
  · rintro ⟨key, ⟨text, rfl, hkey⟩, rfl⟩
    exact ⟨congrArg _ hkey.written, key, hkey.written ▸ hkey⟩
  · rintro ⟨rfl, key, hkey⟩
    exact ⟨key, ⟨text, rfl, hkey⟩, hkey.written.symm⟩

theorem isTransformations_iff {value : Json} {groups : List String × List String}
    (hid : keySeparator ∉ id.toList) :
    (∃ transformations, SpellsTransformations ⟨id, schema⟩ value transformations ∧
      transformations.texts = groups) ↔ IsTransformations id schema value groups := by
  constructor
  · rintro ⟨_, @⟨members, keys, rules, group, apply, hparts, hne, hkeys, hrules, hdistinct⟩, rfl⟩
    have htexts := (exists_forall₂_map_iff FieldKey.key).mp ⟨group, hkeys, rfl⟩
    have hnames := (exists_forall₂_map_iff ApplyRule.name).mp ⟨apply, hrules, rfl⟩
    obtain ⟨rfl, hknown⟩ := forall₂_string_iff.mp
      (htexts.imp fun _ _ h => (spellsKey_iff hid).mp h)
    exact ⟨hparts, by simpa using hne, hknown, hnames.imp fun _ _ h => (isRule_iff hid).mp h,
      hdistinct⟩
  · rintro @⟨members, keys, names, rules, hparts, hne, hknown, hrules, hdistinct⟩
    obtain ⟨group, hgroup, rfl⟩ := (exists_forall₂_map_iff FieldKey.key).mpr
      ((forall₂_string_iff.mpr ⟨rfl, hknown⟩).imp fun _ _ h => (spellsKey_iff hid).mpr h)
    obtain ⟨apply, happly, rfl⟩ := (exists_forall₂_map_iff ApplyRule.name).mpr
      (hrules.imp fun _ _ h => (isRule_iff hid).mpr h)
    exact ⟨⟨group, apply⟩, ⟨hparts, by simpa using hne, hgroup, happly, hdistinct⟩, rfl⟩

/-- Groups and aggregates that may be missing. -/
theorem isGroups_iff {value : Option Json} {groups : Option (List String × List String)}
    (hid : keySeparator ∉ id.toList) :
    (∃ transformations, Option.Rel (SpellsTransformations ⟨id, schema⟩) value transformations ∧
      transformations.map Transformations.texts = groups) ↔
        Option.Rel (IsTransformations id schema) value groups := by
  constructor
  · rintro ⟨_, h, rfl⟩
    cases h with
    | none => exact .none
    | some h => exact .some ((isTransformations_iff hid).mp ⟨_, h, rfl⟩)
  · intro h
    cases h with
    | none => exact ⟨none, .none, rfl⟩
    | some h =>
      obtain ⟨transformations, hspells, rfl⟩ := (isTransformations_iff hid).mpr h
      exact ⟨some transformations, .some hspells, rfl⟩

/-! ### Columns and order -/

theorem isColumn_iff {transformations : Option Transformations} {value : Json} {text : String}
    (hid : keySeparator ∉ id.toList) :
    (∃ column, SpellsColumn ⟨id, schema⟩ transformations value column ∧ column.name = text) ↔
      value = .string text ∧
        IsColumn id schema (transformations.map Transformations.texts) text := by
  constructor
  · rintro ⟨column, hcolumn, rfl⟩
    cases hcolumn with
    | @field text key hkey =>
      obtain rfl : text = key.key := hkey.written
      exact ⟨rfl, (isKey_iff hid).mp ⟨key, hkey⟩⟩
    | @group transformations text key hfound =>
      obtain rfl : key.key = text := by simpa using List.find?_some hfound
      exact ⟨rfl, .inl (List.mem_map_of_mem (List.mem_of_find?_eq_some hfound))⟩
    | applied _ hfound => exact ⟨rfl, .inr hfound⟩
  · rintro ⟨rfl, h⟩
    cases transformations with
    | none =>
      obtain ⟨key, hkey⟩ := (isKey_iff hid).mpr h
      exact ⟨.field key, .field hkey, hkey.written.symm⟩
    | some transformations =>
      by_cases hgroup : text ∈ transformations.group.map FieldKey.key
      · obtain ⟨key, hkey, rfl⟩ := List.mem_map.mp hgroup
        obtain ⟨found, hfound⟩ := Option.isSome_iff_exists.mp
          (List.find?_isSome (p := fun other => other.key == key.key) |>.mpr ⟨key, hkey, by simp⟩)
        have hname : found.key = key.key := by simpa using List.find?_some hfound
        exact ⟨.field found, .group hfound, hname⟩
      · exact ⟨.applied text, .applied hgroup (h.resolve_left hgroup), rfl⟩

theorem isOrder_iff {columns : List Column} {value : Json} :
    (∃ order, SpellsOrder columns value order) ↔ IsOrder (columns.map Column.name) value := by
  have hdirection {dir : String} :
      (∃ direction, Direction.ofText? dir = some direction) ↔ dir ∈ ["UP", "DOWN"] := by
    simp only [List.mem_cons, List.not_mem_nil, or_false]
    constructor
    · rintro ⟨direction, h⟩
      unfold Direction.ofText? at h
      split at h
      · exact .inl rfl
      · exact .inr rfl
      · cases h
    · rintro (rfl | rfl)
      · exact ⟨.up, rfl⟩
      · exact ⟨.down, rfl⟩
  constructor
  · rintro ⟨order, h⟩
    cases h with
    | single hshown => exact .single hshown
    | multi hparts hknown hne hshown =>
      exact .multi hparts (hdirection.mp ⟨_, hknown⟩) hne hshown
  · intro h
    cases h with
    | single hshown => exact ⟨_, .single hshown⟩
    | multi hparts hknown hne hshown =>
      obtain ⟨direction, hdir⟩ := hdirection.mpr hknown
      exact ⟨_, .multi hparts hdir hne hshown⟩

/-- An order that may be missing. -/
theorem isOptionalOrder_iff {columns : List Column} {value : Option Json} :
    (∃ order, Option.Rel (SpellsOrder columns) value order) ↔
      ∀ found ∈ value, IsOrder (columns.map Column.name) found := by
  cases value with
  | none =>
    constructor
    · rintro - found hfound
      cases hfound
    · exact fun _ => ⟨none, .none⟩
  | some value =>
    constructor
    · rintro ⟨_, ⟨h⟩⟩ found hfound
      obtain rfl : value = found := Option.some.inj hfound
      exact isOrder_iff.mp ⟨_, h⟩
    · intro h
      obtain ⟨order, horder⟩ := isOrder_iff.mpr (h value rfl)
      exact ⟨some order, .some horder⟩

/-! ### Filters -/

theorem isPattern_iff {text : String} :
    (∃ pattern, Pattern.ofText? text = some pattern ∧ engine.Compiles pattern) ↔
      IsPattern engine text := by
  constructor
  · rintro ⟨pattern, hpattern, hcompiled⟩
    refine ⟨Pattern.ofText?_isSome_iff.mp ⟨pattern, hpattern⟩, fun other hother => ?_⟩
    rwa [← Option.some.inj (hpattern.symm.trans hother)]
  · rintro ⟨hstars, hcompiled⟩
    obtain ⟨pattern, hpattern⟩ := Pattern.ofText?_isSome_iff.mpr hstars
    exact ⟨pattern, hpattern, hcompiled pattern hpattern⟩

theorem isNumber_iff {value : Json} : (∃ x, value.number? = some x) ↔ IsNumber value := by
  constructor
  · rintro ⟨x, h⟩
    cases value with
    | integer n => exact .integer n
    | real x => exact .real x
    | null | bool | string | array | object => cases h
  · rintro (⟨n⟩ | ⟨x⟩)
    · exact ⟨_, rfl⟩
    · exact ⟨_, rfl⟩

theorem comparator_iff {tag : String} :
    (∃ op, Comparator.ofTag? tag = some op) ↔ tag ∈ ["LT", "GT", "EQ"] := by
  simp only [List.mem_cons, List.not_mem_nil, or_false]
  constructor
  · rintro ⟨op, h⟩
    unfold Comparator.ofTag? at h
    split at h
    · exact .inl rfl
    · exact .inr (.inl rfl)
    · exact .inr (.inr rfl)
    · cases h
  · rintro (rfl | rfl | rfl)
    · exact ⟨.less, rfl⟩
    · exact ⟨.greater, rfl⟩
    · exact ⟨.equal, rfl⟩

mutual

theorem SpellsFilter.isFilter {value : Json} {filter : Filter} (hid : keySeparator ∉ id.toList)
    (h : SpellsFilter engine ⟨id, schema⟩ value filter) :
    IsFilter (IsPattern engine) id schema value := by
  cases h with
  | all => exact .all
  | not inner => exact .not (inner.isFilter hid)
  | and hne branches => exact .and hne (branches.isFilter hid)
  | or hne branches => exact .or hne (branches.isFilter hid)
  | accepts hkey hpattern hcompiled =>
    exact .accepts ((isKey_iff hid).mp ⟨_, hkey⟩) (isPattern_iff.mp ⟨_, hpattern, hcompiled⟩)
  | compare htag hkey hnumber =>
    exact .compare (comparator_iff.mp ⟨_, htag⟩) ((isKey_iff hid).mp ⟨_, hkey⟩)
      (isNumber_iff.mp ⟨_, hnumber⟩)

theorem SpellsFilters.isFilter {items : List Json} {filters : List Filter}
    (hid : keySeparator ∉ id.toList) (h : SpellsFilters engine ⟨id, schema⟩ items filters) :
    ∀ item ∈ items, IsFilter (IsPattern engine) id schema item := by
  cases h with
  | nil => simp
  | cons first others =>
    exact List.forall_mem_cons.mpr ⟨first.isFilter hid, others.isFilter hid⟩

end

theorem exists_spellsFilters {context : KeyContext} {items : List Json}
    (h : ∀ item ∈ items, ∃ filter, SpellsFilter engine context item filter) :
    ∃ filters, SpellsFilters engine context items filters := by
  induction items with
  | nil => exact ⟨[], .nil⟩
  | cons item items ih =>
    obtain ⟨⟨filter, hfilter⟩, hothers⟩ := List.forall_mem_cons.mp h
    obtain ⟨filters, hfilters⟩ := ih hothers
    exact ⟨filter :: filters, .cons hfilter hfilters⟩

theorem isFilter_iff {value : Json} (hid : keySeparator ∉ id.toList) :
    (∃ filter, SpellsFilter engine ⟨id, schema⟩ value filter) ↔
      IsFilter (IsPattern engine) id schema value := by
  constructor
  · rintro ⟨filter, h⟩
    exact h.isFilter hid
  · intro h
    induction h with
    | all => exact ⟨.all, .all⟩
    | not _ ih =>
      obtain ⟨inner, hinner⟩ := ih
      exact ⟨.not inner, .not hinner⟩
    | and hne _ ih =>
      obtain ⟨branches, hbranches⟩ := exists_spellsFilters ih
      exact ⟨.and branches, .and hne hbranches⟩
    | or hne _ ih =>
      obtain ⟨branches, hbranches⟩ := exists_spellsFilters ih
      exact ⟨.or branches, .or hne hbranches⟩
    | accepts hkey hpattern =>
      obtain ⟨key, hkey⟩ := (isKey_iff hid).mpr hkey
      obtain ⟨pattern, hpattern, hcompiled⟩ := isPattern_iff.mpr hpattern
      exact ⟨.accepts key pattern, .accepts hkey hpattern hcompiled⟩
    | compare htag hkey hnumber =>
      obtain ⟨op, hop⟩ := comparator_iff.mpr htag
      obtain ⟨key, hkey⟩ := (isKey_iff hid).mpr hkey
      obtain ⟨operand, hoperand⟩ := isNumber_iff.mpr hnumber
      exact ⟨.compare op key operand, .compare hop hkey hoperand⟩

/-! ### Filters that are too large -/

/-- The fault of a text that is a pattern, but beyond the limit of the library. -/
inductive Fault.Oversized (engine : ExpressionEngine) (limit : String → Prop) : Fault → Prop where
  | intro {text reason : String} {pattern : Pattern} (read : Pattern.ofText? text = some pattern)
      (large : limit (pattern.expression engine))
      (refused : engine.compile (pattern.expression engine) = .error reason) :
      Oversized engine limit (.uncompiled text reason)

theorem oversized_of_prepare {limit : String → Prop} (documented : engine.Documented limit)
    {text : String} {fault : Fault} (hstars : StarsAtEnds text)
    (h : engine.prepare text = .error fault) : fault.Oversized engine limit := by
  obtain ⟨pattern, hpattern⟩ := Pattern.ofText?_isSome_iff.mpr hstars
  obtain ⟨reason, hrefused, rfl⟩ := ExpressionEngine.prepare_eq_error hpattern h
  refine .intro hpattern ?_ hrefused
  by_contra hlimit
  obtain ⟨program, hcompile⟩ := documented.compilesPattern hlimit
  cases hrefused.symm.trans hcompile

/-- Filters one after the other fail as one of them does. -/
theorem exists_readFilter_eq_error {context : KeyContext} {tag : String} {items : List Json}
    {fault : Fault} (h : readFilters engine context tag items = .error fault) :
    ∃ item ∈ items, readFilter engine context tag item = .error fault := by
  induction items with
  | nil => cases h
  | cons item items ih =>
    simp only [readFilters, bind_eq_error_iff, pure_ne_error, and_false, exists_false,
      or_false] at h
    obtain hfirst | ⟨-, -, hothers⟩ := h
    · exact ⟨item, List.mem_cons_self, hfirst⟩
    · obtain ⟨found, hfound, hfault⟩ := ih hothers
      exact ⟨found, List.mem_cons_of_mem _ hfound, hfault⟩

/-- A filter of the grammar is refused only if a pattern of it is too large. -/
theorem IsFilter.oversized {limit : String → Prop} (documented : engine.Documented limit)
    {value : Json} (hid : keySeparator ∉ id.toList) (h : IsFilter StarsAtEnds id schema value)
    {what : String} {fault : Fault}
    (hfault : readFilter engine ⟨id, schema⟩ what value = .error fault) :
    fault.Oversized engine limit := by
  induction h generalizing what with
  | all => cases hfault
  | not _ ih =>
    rw [readFilter_not, map_eq_error_iff] at hfault
    exact ih hfault
  | and hne _ ih =>
    rw [readFilter_and hne, map_eq_error_iff] at hfault
    obtain ⟨item, hitem, hfault⟩ := exists_readFilter_eq_error hfault
    exact ih item hitem hfault
  | or hne _ ih =>
    rw [readFilter_or hne, map_eq_error_iff] at hfault
    obtain ⟨item, hitem, hfault⟩ := exists_readFilter_eq_error hfault
    exact ih item hitem hfault
  | @accepts text written hkey hstars =>
    obtain ⟨key, hkey⟩ := (isKey_iff hid).mpr hkey
    have hread := readKey_eq_ok_iff.mpr hkey
    have hsingle : requireSingle "IS" (.object [(text, .string written)]) =
        .ok (text, .string written) := rfl
    rw [readFilter_is] at hfault
    simp only [readPattern, hsingle, hread, Json.string?, require, bind_ok, bind_eq_error_iff,
      pure_ne_error, and_false, exists_false, or_false] at hfault
    exact oversized_of_prepare documented hstars hfault
  | compare htag hkey hnumber =>
    obtain ⟨filter, hfilter⟩ := (isFilter_iff hid).mpr (.compare htag hkey hnumber)
    rw [hfilter.readFilter] at hfault
    cases hfault

/-! ### The whole query -/

/-- All columns at once. -/
theorem isColumns_iff {transformations : Option Transformations} {values : List Json}
    {texts : List String} (hid : keySeparator ∉ id.toList) :
    (∃ columns, List.Forall₂ (SpellsColumn ⟨id, schema⟩ transformations) values columns ∧
      columns.map Column.name = texts) ↔ values = texts.map .string ∧
        ∀ text ∈ texts, IsColumn id schema (transformations.map Transformations.texts) text := by
  rw [exists_forall₂_map_iff, ← forall₂_string_iff]
  simp only [isColumn_iff hid]

theorem exists_firstKey {value : Option Json} {groups : Option (List String × List String)}
    {columns : List String} (h : Option.Rel (IsTransformations id schema) value groups)
    (hne : columns ≠ []) :
    ∃ first rest, (groups.map Prod.fst).getD columns = first :: rest := by
  refine List.exists_cons_of_ne_nil ?_
  cases h with
  | none => exact hne
  | some h =>
    obtain ⟨-, hkeys, -, -, -⟩ := h
    exact hkeys

/-- The key that names the dataset is a qualified key of that dataset. -/
theorem beforeSeparator_firstKey {value : Option Json} {groups : Option (List String × List String)}
    {columns rest : List String} {first : String} (hid : keySeparator ∉ id.toList)
    (htransformations : Option.Rel (IsTransformations id schema) value groups)
    (hshown : ∀ column ∈ columns, IsColumn id schema groups column)
    (hfirst : (groups.map Prod.fst).getD columns = first :: rest) :
    beforeSeparator first = id := by
  cases htransformations with
  | none =>
    obtain rfl : columns = first :: rest := hfirst
    exact IsKey.beforeSeparator (hshown first List.mem_cons_self) hid
  | some h =>
    obtain ⟨-, -, hknown, -, -⟩ := h
    obtain rfl : _ = first :: rest := hfirst
    exact (hknown first List.mem_cons_self).beforeSeparator hid

theorem SpellsQuery.isQuery {tree : Json} {query : Query}
    (h : SpellsQuery engine schema tree query) : IsQuery (IsPattern engine) schema tree := by
  obtain @⟨root, options, filterValue, values, id, filter, columns, order, transformations,
    hroot, hfilterValue, hoptionsValue, hoptions, hcolumnsValue, hvalid, htransformations, hne,
    hcolumns, horder, hfilter⟩ := h
  obtain ⟨hblank, hid⟩ := isValidId_iff.mp hvalid
  obtain ⟨rfl, hshown⟩ := (isColumns_iff hid).mp ⟨columns, hcolumns, rfl⟩
  have hgroups := (isGroups_iff hid).mp ⟨transformations, htransformations, rfl⟩
  have hne : columns.map Column.name ≠ [] := by simpa using hne
  obtain ⟨first, rest, hfirst⟩ := exists_firstKey hgroups hne
  obtain rfl := beforeSeparator_firstKey hid hgroups hshown hfirst
  exact ⟨hroot, hfilterValue, hoptionsValue, hoptions, hcolumnsValue, hfirst, hblank, hgroups,
    hne, hshown, isOptionalOrder_iff.mp ⟨order, horder⟩, (isFilter_iff hid).mp ⟨filter, hfilter⟩⟩

/-- Reading a tree of the grammar is reading its filter, whatever the patterns are. -/
theorem IsQuery.exists_validateWith_eq_map {patterns : String → Prop} {tree : Json}
    (h : IsQuery patterns schema tree) (engine : ExpressionEngine) :
    ∃ id value query, keySeparator ∉ id.toList ∧ IsFilter patterns id schema value ∧
      validateWith engine tree schema =
        (readFilter engine ⟨id, schema⟩ "WHERE" value).map query := by
  obtain @⟨root, options, filterValue, texts, rest, first, groups, hroot, hfilterValue,
    hoptionsValue, hoptions, hcolumnsValue, hfirst, hblank, hgroups, hne, hshown, horder,
    hfilter⟩ := h
  have hid := separator_notMem_beforeSeparator first
  obtain ⟨transformations, htransformations, rfl⟩ := (isGroups_iff hid).mpr hgroups
  obtain ⟨columns, hcolumns, rfl⟩ := (isColumns_iff hid).mpr ⟨rfl, hshown⟩
  obtain ⟨order, horder⟩ := isOptionalOrder_iff.mpr horder
  exact ⟨_, filterValue, _, hid, hfilter, validateWith_eq_map_readFilter hroot hfilterValue
    hoptionsValue hoptions hcolumnsValue (isValidId_iff.mpr ⟨hblank, hid⟩) htransformations
    (by simpa using hne) hcolumns horder⟩

/-- **Exactly the trees of the grammar are accepted**, with the texts as patterns that have stars at
their ends only and that the library compiles. If a library keeps to its documentation, a tree whose
texts all have stars at their ends only is refused for nothing but the limit of the library. -/
theorem validateWith_isOk_iff {engine : ExpressionEngine} {limit : String → Prop}
    (documented : engine.Documented limit) (schema : Schema) (tree : Json) :
    ((∃ query, validateWith engine tree schema = .ok query) ↔
      IsQuery (IsPattern engine) schema tree) ∧
    (IsQuery StarsAtEnds schema tree → ∀ fault, validateWith engine tree schema = .error fault →
      fault.Oversized engine limit) := by
  refine ⟨⟨?_, ?_⟩, ?_⟩
  · rintro ⟨query, h⟩
    exact (validateWith_eq_ok_iff.mp h).isQuery
  · intro h
    obtain ⟨id, value, query, hid, hfilter, hvalidate⟩ := h.exists_validateWith_eq_map engine
    obtain ⟨filter, hspells⟩ := (isFilter_iff hid).mpr hfilter
    exact ⟨query filter, by rw [hvalidate, hspells.readFilter]; rfl⟩
  · intro h fault hfault
    obtain ⟨id, value, query, hid, hfilter, hvalidate⟩ := h.exists_validateWith_eq_map engine
    rw [hvalidate, map_eq_error_iff] at hfault
    exact hfilter.oversized documented hid hfault

/-! ### A query that is refused -/

/-- The query for the departments that a text stands for. -/
def departmentQuery (text : String) : Json :=
  .object [("WHERE", .object [("IS", .object [("s_dept", .string text)])]),
    ("OPTIONS", .object [("COLUMNS", .array [.string "s_dept"])])]

theorem isQuery_departmentQuery {text : String} (h : StarsAtEnds text) :
    IsQuery StarsAtEnds .any (departmentQuery text) := by
  have hid : beforeSeparator "s_dept" = "s" := by decide
  have hkey {wanted : Option FieldKind} (hwanted : ∀ expected ∈ wanted, .text = expected) :
      IsKey (beforeSeparator "s_dept") .any wanted "s_dept" :=
    hid ▸ ⟨"dept", .text, by decide, by decide, hwanted⟩
  have hcolumns : List.lookup "COLUMNS" [("COLUMNS", Json.array [.string "s_dept"])] =
      some (.array (["s_dept"].map .string)) := rfl
  refine .intro (by simp) rfl rfl (by simp) hcolumns rfl (by decide) .none (by simp) ?_ ?_
    (.accepts (hkey (by simp)) h)
  · simpa [IsColumn] using hkey (by simp)
  · rintro value ⟨⟩

theorem isPattern_of_isQuery_departmentQuery {text : String}
    (h : IsQuery (IsPattern engine) .any (departmentQuery text)) : IsPattern engine text := by
  cases h with
  | intro _ hfilter _ _ _ _ _ _ _ _ _ hcondition =>
    obtain hvalue := Option.some.inj hfilter
    cases hcondition with
    | all | not | and | or => simp at hvalue
    | accepts _ hpattern =>
      obtain ⟨-, rfl⟩ : "s_dept" = _ ∧ text = _ := by simpa using hvalue
      exact hpattern
    | compare htag =>
      obtain ⟨rfl, -⟩ : "IS" = _ ∧ _ := by simpa using hvalue
      simp at htag

/-- A text of the given length, without stars. -/
def plainText (length : Nat) : String :=
  String.ofList (List.replicate length 'a')

theorem star_notMem_plainText (length : Nat) : '*' ∉ (plainText length).toList := by
  rw [plainText, String.toList_ofList]
  exact fun h => absurd (List.eq_of_mem_replicate h) (by decide)

theorem starsAtEnds_plainText (length : Nat) : StarsAtEnds (plainText length) :=
  Pattern.ofText?_isSome_iff.mp
    ⟨_, Pattern.ofText?_of_star_notMem (star_notMem_plainText length)⟩

theorem utf8ByteSize_plainText (length : Nat) : (plainText length).utf8ByteSize = length := by
  rw [plainText, String.utf8ByteSize_ofList]
  induction length with
  | zero => rfl
  | succ length ih => rw [List.replicate_succ, String.utf8Len_cons, ih]; rfl

/-- Every character of the text takes a state of a program. -/
theorem not_isPattern_plainText {length : Nat}
    (h : Expression.sizeLimit < length * Expression.stateSize) :
    ¬IsPattern .standard (plainText length) := by
  intro hpattern
  have hcompiled := hpattern.compiled _
    (Pattern.ofText?_of_star_notMem (star_notMem_plainText length))
  have hfits := ExpressionEngine.fits_of_compiles_standard hcompiled
  rw [Expression.fits, Bool.and_eq_true, decide_eq_true_iff] at hfits
  have hsize := Pattern.le_programSize_steps ⟨false, (plainText length).toList, false⟩ false
  rw [String.ofList_toList, utf8ByteSize_plainText] at hsize
  omega

/-- A query for a department with a long name: it is refused for the length of the name. -/
theorem validateWith_isOk_iff_plainText :
    ExpressionEngine.standard.Documented ExpressionEngine.TooLarge ∧
      IsQuery StarsAtEnds .any (departmentQuery (plainText 500000)) ∧
      ∀ fault, validate (departmentQuery (plainText 500000)) .any = .error fault →
        fault.Oversized .standard ExpressionEngine.TooLarge := by
  have documented := ExpressionEngine.documented_standard
  have hquery := isQuery_departmentQuery (starsAtEnds_plainText 500000)
  exact ⟨documented, hquery, (validateWith_isOk_iff documented .any _).2 hquery⟩

/-- A tree whose texts have stars at their ends only, and that is not accepted. -/
theorem validate_plainText_ne_ok :
    IsQuery StarsAtEnds .any (departmentQuery (plainText 500000)) ∧
      ¬∃ query, validate (departmentQuery (plainText 500000)) .any = .ok query := by
  refine ⟨isQuery_departmentQuery (starsAtEnds_plainText 500000), ?_⟩
  rintro ⟨query, h⟩
  refine not_isPattern_plainText ?_
    (isPattern_of_isQuery_departmentQuery (validate_eq_ok_iff.mp h).isQuery)
  rw [Expression.sizeLimit, Expression.stateSize]
  omega

end Registrar
