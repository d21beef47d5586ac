import Mathlib.Data.List.Forall2
import Registrar.Proofs.Dataset.Identifier
import Registrar.Proofs.Json.Members
import Registrar.Proofs.Outcome
import Registrar.Proofs.Query.Expression
import Registrar.Query.Validation

/-!
# How a JSON tree spells a query

`validate` is a chain of checks. What the checks come to is a relation between trees and queries:
each rule says how one part of a query is written. A rule fixes every member, key and item of the
tree, so a tree that spells a query has nothing in it that is not in the query.

The relation says nothing about the order of the checks or about faults. It is what statements about
accepted queries start from: that they are well typed, which trees are accepted, that nothing is
dropped.

## Main definitions

* `NamesField`, `SpellsRule`, `SpellsTransformations`, `SpellsColumn`, `SpellsOrder`, `SpellsFilter`
  — how the parts of a query are written.
* `SpellsQuery` — how a query is written.

## Main results

* `validateWith_eq_map_readFilter` — if all but the filter is spelled, the filter is left to read.
* `validateWith_eq_ok_iff` — a tree is read as a query exactly if it spells it.
-/

namespace Registrar

variable {engine : ExpressionEngine} {context : KeyContext}

/-! ### Shapes -/

@[simp] theorem require_eq_ok_iff {α : Type} {fault : Fault} {value : Option α} {a : α} :
    require fault value = .ok a ↔ value = some a := by
  cases value <;> simp [require]

@[simp] theorem requireObject_eq_ok_iff {what : String} {value : Json}
    {members : List (String × Json)} :
    requireObject what value = .ok members ↔ value = .object members := by
  cases value <;> simp [requireObject]

@[simp] theorem requireArray_eq_ok_iff {what : String} {value : Json} {items : List Json} :
    requireArray what value = .ok items ↔ value = .array items := by
  cases value <;> simp [requireArray]

@[simp] theorem requireItems_eq_ok_iff {what : String} {value : Json} {items : List Json} :
    requireItems what value = .ok items ↔ value = .array items ∧ items ≠ [] := by
  rw [requireItems]
  constructor
  · intro h
    obtain ⟨found, hfound, h⟩ := bind_eq_ok_iff.mp h
    rw [requireArray_eq_ok_iff] at hfound
    cases found with
    | nil => simp at h
    | cons item rest =>
      cases h
      exact ⟨hfound, List.cons_ne_nil item rest⟩
  · rintro ⟨rfl, hne⟩
    cases items with
    | nil => exact absurd rfl hne
    | cons item rest => rfl

@[simp] theorem requireSingle_eq_ok_iff {what : String} {value : Json} {member : String × Json} :
    requireSingle what value = .ok member ↔ value = .object [member] := by
  rw [requireSingle, bind_eq_ok_iff]
  constructor
  · rintro ⟨members, hmembers, h⟩
    rw [requireObject_eq_ok_iff] at hmembers
    split at h
    · rw [hmembers, pure_eq_ok_iff.mp h]
    · exact absurd h throw_ne_ok
  · rintro rfl
    exact ⟨[member], rfl, rfl⟩

@[simp] theorem requireNames_eq_ok_iff {names : List String} {fault : String → Fault}
    {members : List (String × Json)} {done : Unit} :
    requireNames names fault members = .ok done ↔ ∀ member ∈ members, member.1 ∈ names := by
  rw [requireNames]
  split
  · next found =>
    obtain ⟨hmem, hother⟩ : _ ∈ members ∧ _ ∉ names := by
      simpa using And.intro (List.mem_of_find?_eq_some found) (List.find?_some found)
    simp only [reduceCtorEq, false_iff]
    exact fun h => hother (h _ hmem)
  · next missing => simpa using missing

/-- A part that may be missing is spelled if it is there. -/
theorem readOptional_eq_ok_iff {α : Type} {read : Json → Except Fault α} {spells : Json → α → Prop}
    (hread : ∀ value a, read value = .ok a ↔ spells value a) {value : Option Json}
    {result : Option α} :
    readOptional read value = .ok result ↔ Option.Rel spells value result := by
  cases value with
  | none =>
    constructor
    · intro h
      cases h
      exact .none
    · rintro ⟨⟩
      rfl
  | some value =>
    constructor
    · intro h
      obtain ⟨a, ha, rfl⟩ := map_eq_ok_iff.mp h
      exact .some ((hread value a).mp ha)
    · rintro ⟨h⟩
      exact map_eq_ok_iff.mpr ⟨_, (hread value _).mpr h, rfl⟩

/-! ### Keys -/

/-- A text names a field of the dataset of the query. The field has to be in the schema, and of the
wanted kind if there is one. -/
structure NamesField (context : KeyContext) (wanted : Option FieldKind) (text : String)
    (key : FieldKey) : Prop where
  dataset : key.datasetId = context.datasetId
  /-- The id ends at the first separator of the text. -/
  plain : keySeparator ∉ key.datasetId.toList
  written : text = key.key
  typed : ∃ kind, context.schema.fieldKind? key.field = some kind ∧
    ∀ expected ∈ wanted, kind = expected

theorem readKey_eq_ok_iff {wanted : Option FieldKind} {text : String} {key : FieldKey} :
    readKey context wanted text = .ok key ↔ NamesField context wanted text key := by
  simp only [readKey, bind_eq_ok_iff, require_eq_ok_iff, Prod.exists, splitKey?_eq_some_iff,
    check_eq_ok_iff, ne_eq, not_not]
  constructor
  · rintro ⟨id, field, ⟨hwritten, hplain⟩, hid, kind, hkind, h⟩
    cases wanted with
    | none =>
      cases h
      exact ⟨hid, hplain, hwritten, kind, hkind, fun _ h => by cases h⟩
    | some expected =>
      obtain ⟨hexpected, h⟩ := check_eq_ok_iff.mp h
      cases h
      refine ⟨hid, hplain, hwritten, kind, hkind, fun _ h => ?_⟩
      cases h
      exact not_not.mp hexpected
  · rintro ⟨hdataset, hplain, hwritten, kind, hkind, hwanted⟩
    refine ⟨key.datasetId, key.field, ⟨hwritten, hplain⟩, hdataset, kind, hkind, ?_⟩
    cases wanted with
    | none => rfl
    | some expected => exact check_eq_ok_iff.mpr ⟨not_not.mpr (hwanted expected rfl), rfl⟩

/-- A key that is written as a JSON text. -/
def SpellsKey (context : KeyContext) (value : Json) (key : FieldKey) : Prop :=
  ∃ text, value = .string text ∧ NamesField context none text key

theorem readKeyValue_eq_ok_iff {wanted : Option FieldKind} {value : Json} {key : FieldKey} :
    readKeyValue context wanted value = .ok key ↔
      ∃ text, value = .string text ∧ NamesField context wanted text key := by
  rw [readKeyValue, bind_eq_ok_iff]
  refine exists_congr fun text => ?_
  rw [require_eq_ok_iff, readKey_eq_ok_iff]
  cases value <;> simp [Json.string?]

/-! ### Groups and aggregates -/

/-- The kind of field that an aggregate wants. -/
def Aggregate.wanted (aggregate : Aggregate) : Option FieldKind :=
  if aggregate.requiresMeasure then some .measure else none

/-- An aggregate is written as a name with, for it, a function with the key of its field. -/
inductive SpellsRule (context : KeyContext) : Json → ApplyRule → Prop where
  | intro {name token text : String} {aggregate : Aggregate} {key : FieldKey}
      (nonempty : name ≠ "") (plain : keySeparator ∉ name.toList)
      (known : Aggregate.ofText? token = some aggregate)
      (target : NamesField context aggregate.wanted text key) :
      SpellsRule context (.object [(name, .object [(token, .string text)])]) ⟨name, aggregate, key⟩

theorem readApplyRule_eq_ok_iff {value : Json} {rule : ApplyRule} :
    readApplyRule context value = .ok rule ↔ SpellsRule context value rule := by
  simp only [readApplyRule, bind_eq_ok_iff, requireSingle_eq_ok_iff, require_eq_ok_iff,
    Prod.exists, check_eq_ok_iff, readKeyValue_eq_ok_iff, pure_eq_ok_iff, Bool.or_eq_true,
    not_or, String.isEmpty_iff, List.contains_iff_mem]
  constructor
  · rintro ⟨name, _, rfl, ⟨hnonempty, hplain⟩, token, _, rfl, aggregate, htoken, key,
      ⟨text, rfl, hkey⟩, rfl⟩
    exact ⟨hnonempty, hplain, htoken, hkey⟩
  · rintro ⟨hnonempty, hplain, htoken, hkey⟩
    exact ⟨_, _, rfl, ⟨hnonempty, hplain⟩, _, _, rfl, _, htoken, _, ⟨_, rfl, hkey⟩, rfl⟩

/-- The names of the aggregates differ from each other and from those seen before. -/
theorem readApplyRules_eq_ok_iff {seen : List String} {values : List Json}
    {rules : List ApplyRule} :
    readApplyRules context seen values = .ok rules ↔
      List.Forall₂ (SpellsRule context) values rules ∧ (rules.map ApplyRule.name).Nodup ∧
        ∀ rule ∈ rules, rule.name ∉ seen := by
  induction values generalizing seen rules with
  | nil =>
    rw [readApplyRules, List.forall₂_nil_left_iff]
    constructor
    · intro h
      cases h
      simp
    · rintro ⟨rfl, -⟩
      rfl
  | cons value values ih =>
    simp only [readApplyRules, bind_eq_ok_iff, check_eq_ok_iff, pure_eq_ok_iff,
      readApplyRule_eq_ok_iff, ih, List.contains_iff_mem]
    constructor
    · rintro ⟨rule, hrule, hfresh, others, ⟨hothers, hnodup, hseen⟩, rfl⟩
      refine ⟨.cons hrule hothers, ?_, ?_⟩
      · rw [List.map_cons, List.nodup_cons]
        refine ⟨fun hmem => ?_, hnodup⟩
        obtain ⟨other, hother, hname⟩ := List.mem_map.mp hmem
        exact hseen other hother (hname ▸ List.mem_cons_self)
      · refine List.forall_mem_cons.mpr ⟨hfresh, fun other hother hmem => ?_⟩
        exact hseen other hother (List.mem_cons_of_mem _ hmem)
    · rintro ⟨hspells, hnodup, hseen⟩
      cases hspells with
      | @cons _ rule _ others hrule hothers =>
        rw [List.map_cons, List.nodup_cons] at hnodup
        obtain ⟨hfresh, hseen⟩ := List.forall_mem_cons.mp hseen
        refine ⟨rule, hrule, hfresh, others, ⟨hothers, hnodup.2, fun other hother hmem => ?_⟩, rfl⟩
        obtain hname | hmem := List.mem_cons.mp hmem
        · exact hnodup.1 (hname ▸ List.mem_map_of_mem hother)
        · exact hseen other hother hmem

/-- A transformation has group keys, at least one, and aggregates with names of their own. -/
inductive SpellsTransformations (context : KeyContext) : Json → Transformations → Prop where
  | intro {members : List (String × Json)} {keys rules : List Json} {group : List FieldKey}
      {apply : List ApplyRule}
      (parts : members.Perm [("GROUP", .array keys), ("APPLY", .array rules)])
      (nonempty : keys ≠ []) (keysSpell : List.Forall₂ (SpellsKey context) keys group)
      (rulesSpell : List.Forall₂ (SpellsRule context) rules apply)
      (distinct : (apply.map ApplyRule.name).Nodup) :
      SpellsTransformations context (.object members) ⟨group, apply⟩

theorem readTransformations_eq_ok_iff {value : Json} {transformations : Transformations} :
    readTransformations context value = .ok transformations ↔
      SpellsTransformations context value transformations := by
  have hnames : ("GROUP" : String) ≠ "APPLY" := by decide
  rw [readTransformations, bind_eq_ok_iff]
  constructor
  · rintro ⟨members, hvalue, h⟩
    rw [requireObject_eq_ok_iff] at hvalue
    subst hvalue
    split at h
    · next groupValue applyValue hlength hgroup happly =>
      simp only [bind_eq_ok_iff, requireItems_eq_ok_iff, requireArray_eq_ok_iff, mapM_eq_ok_iff,
        readKeyValue_eq_ok_iff, readApplyRules_eq_ok_iff, pure_eq_ok_iff] at h
      obtain ⟨keys, ⟨rfl, hne⟩, group, hkeys, rules, rfl, apply, ⟨hrules, hdistinct, -⟩, rfl⟩ := h
      exact ⟨(perm_pair_iff hnames).mpr ⟨hlength, hgroup, happly⟩, hne, hkeys, hrules, hdistinct⟩
    · exact absurd h throw_ne_ok
  · rintro ⟨hmembers, hne, hkeys, hrules, hdistinct⟩
    obtain ⟨hlength, hgroup, happly⟩ := (perm_pair_iff hnames).mp hmembers
    refine ⟨_, rfl, ?_⟩
    simp only [hlength, hgroup, happly, bind_eq_ok_iff, requireItems_eq_ok_iff,
      requireArray_eq_ok_iff, mapM_eq_ok_iff, readKeyValue_eq_ok_iff, readApplyRules_eq_ok_iff,
      pure_eq_ok_iff]
    exact ⟨_, ⟨rfl, hne⟩, _, hkeys, _, rfl, _, ⟨hrules, hdistinct, by simp⟩, rfl⟩

/-! ### Columns and order -/

/-- A column is a field, or, if there are groups, a group key or the name of an aggregate. A name
that is both is the group key. -/
inductive SpellsColumn (context : KeyContext) : Option Transformations → Json → Column → Prop where
  | field {text : String} {key : FieldKey} (known : NamesField context none text key) :
      SpellsColumn context none (.string text) (.field key)
  | group {transformations : Transformations} {text : String} {key : FieldKey}
      (found : transformations.group.find? (fun key => key.key == text) = some key) :
      SpellsColumn context (some transformations) (.string text) (.field key)
  | applied {transformations : Transformations} {name : String}
      (missing : name ∉ transformations.group.map FieldKey.key)
      (found : name ∈ transformations.apply.map ApplyRule.name) :
      SpellsColumn context (some transformations) (.string name) (.applied name)

theorem string?_eq_some_iff {value : Json} {text : String} :
    value.string? = some text ↔ value = .string text := by
  cases value <;> simp [Json.string?]

theorem any_eq_iff_mem_map {α : Type} {xs : List α} {name : α → String} {text : String} :
    (xs.any fun x => name x == text) = true ↔ text ∈ xs.map name := by
  simp [List.any_eq_true]

theorem readColumn_eq_ok_iff {transformations : Option Transformations} {value : Json}
    {column : Column} :
    readColumn context transformations value = .ok column ↔
      SpellsColumn context transformations value column := by
  cases transformations with
  | none =>
    simp only [readColumn, map_eq_ok_iff, readKeyValue_eq_ok_iff]
    constructor
    · rintro ⟨key, ⟨text, rfl, hkey⟩, rfl⟩
      exact .field hkey
    · rintro ⟨hkey⟩
      exact ⟨_, ⟨_, rfl, hkey⟩, rfl⟩
  | some transformations =>
    simp only [readColumn, readGroupedColumn, bind_eq_ok_iff, require_eq_ok_iff,
      string?_eq_some_iff]
    constructor
    · rintro ⟨text, rfl, h⟩
      split at h
      · next key hfound =>
        cases h
        exact .group hfound
      · next hmissing =>
        split at h
        · next hfound =>
          cases h
          refine .applied (fun hmem => ?_) (any_eq_iff_mem_map.mp hfound)
          obtain ⟨key, hkey, rfl⟩ := List.mem_map.mp hmem
          simpa using List.find?_eq_none.mp hmissing key hkey
        · exact absurd h throw_ne_ok
    · intro h
      cases h with
      | @group _ text key hfound => exact ⟨text, rfl, by rw [hfound]; rfl⟩
      | @applied _ name hmissing hfound =>
        have hnone : transformations.group.find? (fun key => key.key == name) = none := by
          rw [List.find?_eq_none]
          intro key hkey hname
          exact hmissing (List.mem_map.mpr ⟨key, hkey, beq_iff_eq.mp hname⟩)
        refine ⟨name, rfl, ?_⟩
        rw [hnone]
        simp only [any_eq_iff_mem_map.mpr hfound, if_true]
        rfl

/-- An order is a column, or a direction with columns. -/
inductive SpellsOrder (columns : List Column) : Json → Order → Prop where
  | single {key : String} (shown : key ∈ columns.map Column.name) :
      SpellsOrder columns (.string key) (.single key)
  | multi {members : List (String × Json)} {dir : String} {direction : Direction}
      {keys : List String}
      (parts : members.Perm [("dir", .string dir), ("keys", .array (keys.map .string))])
      (known : Direction.ofText? dir = some direction) (nonempty : keys ≠ [])
      (shown : ∀ key ∈ keys, key ∈ columns.map Column.name) :
      SpellsOrder columns (.object members) (.multi direction keys)

theorem readOrderKey_eq_ok_iff {columns : List Column} {value : Json} {key : String} :
    readOrderKey columns value = .ok key ↔
      value = .string key ∧ key ∈ columns.map Column.name := by
  simp only [readOrderKey, bind_eq_ok_iff, require_eq_ok_iff, string?_eq_some_iff,
    any_eq_iff_mem_map]
  constructor
  · rintro ⟨text, rfl, h⟩
    split at h
    · next hmem =>
      cases h
      exact ⟨rfl, hmem⟩
    · exact absurd h throw_ne_ok
  · rintro ⟨rfl, hmem⟩
    exact ⟨key, rfl, if_pos hmem⟩

theorem forall₂_orderKey_iff {columns : List Column} {values : List Json} {keys : List String} :
    List.Forall₂ (fun value key => readOrderKey columns value = .ok key) values keys ↔
      values = keys.map .string ∧ ∀ key ∈ keys, key ∈ columns.map Column.name := by
  simp only [readOrderKey_eq_ok_iff]
  induction values generalizing keys with
  | nil =>
    rw [List.forall₂_nil_left_iff]
    constructor
    · rintro rfl
      simp
    · rintro ⟨h, -⟩
      simpa using h
  | cons value values ih =>
    rw [List.forall₂_cons_left_iff]
    constructor
    · rintro ⟨key, keys, ⟨rfl, hkey⟩, hkeys, rfl⟩
      obtain ⟨rfl, hshown⟩ := ih.mp hkeys
      exact ⟨rfl, List.forall_mem_cons.mpr ⟨hkey, hshown⟩⟩
    · rintro ⟨h, hshown⟩
      cases keys with
      | nil => simp at h
      | cons key keys =>
        obtain ⟨rfl, rfl⟩ : value = .string key ∧ values = keys.map .string := by simpa using h
        obtain ⟨hkey, hshown⟩ := List.forall_mem_cons.mp hshown
        exact ⟨key, keys, ⟨rfl, hkey⟩, ih.mpr ⟨rfl, hshown⟩, rfl⟩

theorem readOrder_eq_ok_iff {columns : List Column} {value : Json} {order : Order} :
    readOrder columns value = .ok order ↔ SpellsOrder columns value order := by
  have hnames : ("dir" : String) ≠ "keys" := by decide
  constructor
  · intro h
    cases value with
    | string text =>
      obtain ⟨key, hkey, rfl⟩ := map_eq_ok_iff.mp h
      obtain ⟨hvalue, hshown⟩ := readOrderKey_eq_ok_iff.mp hkey
      cases hvalue
      exact .single hshown
    | object members =>
      simp only [readOrder, check_eq_ok_iff, bind_eq_ok_iff, require_eq_ok_iff,
        requireArray_eq_ok_iff, mapM_eq_ok_iff, forall₂_orderKey_iff, pure_eq_ok_iff,
        Option.bind_eq_some_iff, string?_eq_some_iff, not_not, ne_eq] at h
      obtain ⟨hlength, dir, ⟨_, hdir, rfl⟩, direction, hdirection, _, hkeys, _, rfl, hne,
        keys, ⟨rfl, hshown⟩, rfl⟩ := h
      refine .multi ((perm_pair_iff hnames).mpr ⟨hlength, hdir, hkeys⟩) hdirection ?_ hshown
      rintro rfl
      exact hne rfl
    | null | bool | integer | real | array => cases h
  · intro h
    cases h with
    | @single key hshown =>
      rw [readOrder, readOrderKey_eq_ok_iff.mpr ⟨rfl, hshown⟩]
      rfl
    | @multi members dir direction keys hparts hdirection hne hshown =>
      obtain ⟨hlength, hdir, hkeys⟩ := (perm_pair_iff hnames).mp hparts
      simp only [readOrder, check_eq_ok_iff, bind_eq_ok_iff, require_eq_ok_iff,
        requireArray_eq_ok_iff, mapM_eq_ok_iff, forall₂_orderKey_iff, pure_eq_ok_iff,
        Option.bind_eq_some_iff, string?_eq_some_iff, not_not, ne_eq]
      refine ⟨hlength, dir, ⟨_, hdir, rfl⟩, direction, hdirection, _, hkeys, _, rfl, ?_,
        keys, ⟨rfl, hshown⟩, rfl⟩
      simpa using hne

/-! ### Filters -/

mutual

/-- A filter is an object with at most one member, whose name tells what kind of filter it is. -/
inductive SpellsFilter (engine : ExpressionEngine) (context : KeyContext) :
    Json → Filter → Prop where
  | all : SpellsFilter engine context (.object []) .all
  | not {body : Json} {inner : Filter} (innerSpells : SpellsFilter engine context body inner) :
      SpellsFilter engine context (.object [("NOT", body)]) (.not inner)
  | and {items : List Json} {branches : List Filter} (nonempty : items ≠ [])
      (branchesSpell : SpellsFilters engine context items branches) :
      SpellsFilter engine context (.object [("AND", .array items)]) (.and branches)
  | or {items : List Json} {branches : List Filter} (nonempty : items ≠ [])
      (branchesSpell : SpellsFilters engine context items branches) :
      SpellsFilter engine context (.object [("OR", .array items)]) (.or branches)
  | accepts {text written : String} {key : FieldKey} {pattern : Pattern}
      (known : NamesField context (some .text) text key)
      (wellFormed : Pattern.ofText? written = some pattern) (compiled : engine.Compiles pattern) :
      SpellsFilter engine context (.object [("IS", .object [(text, .string written)])])
        (.accepts key pattern)
  | compare {tag text : String} {op : Comparator} {key : FieldKey} {value : Json}
      {operand : Binary64} (tagKnown : Comparator.ofTag? tag = some op)
      (known : NamesField context (some .measure) text key)
      (isNumber : value.number? = some operand) :
      SpellsFilter engine context (.object [(tag, .object [(text, value)])])
        (.compare op key operand)

/-- Filters one by one. -/
inductive SpellsFilters (engine : ExpressionEngine) (context : KeyContext) :
    List Json → List Filter → Prop where
  | nil : SpellsFilters engine context [] []
  | cons {item : Json} {items : List Json} {filter : Filter} {filters : List Filter}
      (first : SpellsFilter engine context item filter)
      (others : SpellsFilters engine context items filters) :
      SpellsFilters engine context (item :: items) (filter :: filters)

end

theorem readPattern_eq_ok_iff {body : Json} {filter : Filter} :
    readPattern engine context body = .ok filter ↔ ∃ text written key pattern,
      body = .object [(text, .string written)] ∧ NamesField context (some .text) text key ∧
        (Pattern.ofText? written = some pattern ∧ engine.Compiles pattern) ∧
        filter = .accepts key pattern := by
  simp only [readPattern, bind_eq_ok_iff, requireSingle_eq_ok_iff, require_eq_ok_iff, Prod.exists,
    readKey_eq_ok_iff, string?_eq_some_iff, pure_eq_ok_iff,
    ← ExpressionEngine.exists_prepare_eq_ok_iff]
  constructor
  · rintro ⟨text, _, rfl, key, hkey, written, rfl, pattern, program, hpattern, rfl⟩
    exact ⟨text, written, key, pattern, rfl, hkey, ⟨program, hpattern⟩, rfl⟩
  · rintro ⟨text, written, key, pattern, rfl, hkey, ⟨program, hpattern⟩, rfl⟩
    exact ⟨text, _, rfl, key, hkey, written, rfl, pattern, program, hpattern, rfl⟩

theorem readComparison_eq_ok_iff {tag : String} {body : Json} {filter : Filter} :
    readComparison context tag body = .ok filter ↔ ∃ op text value key operand,
      Comparator.ofTag? tag = some op ∧ body = .object [(text, value)] ∧
        NamesField context (some .measure) text key ∧ value.number? = some operand ∧
        filter = .compare op key operand := by
  simp only [readComparison, bind_eq_ok_iff, requireSingle_eq_ok_iff, require_eq_ok_iff,
    Prod.exists, readKey_eq_ok_iff, pure_eq_ok_iff]
  constructor
  · rintro ⟨op, hop, text, value, rfl, key, hkey, operand, hoperand, rfl⟩
    exact ⟨op, text, value, key, operand, hop, rfl, hkey, hoperand, rfl⟩
  · rintro ⟨op, text, value, key, operand, hop, rfl, hkey, hoperand, rfl⟩
    exact ⟨op, hop, text, value, rfl, key, hkey, operand, hoperand, rfl⟩

mutual

theorem spellsFilter_of_readFilter {what : String} {filter : Filter} :
    (value : Json) → readFilter engine context what value = .ok filter →
      SpellsFilter engine context value filter
  | .object members, h => spellsFilter_of_readNode members (by rwa [readFilter] at h)
  | .null, h | .bool _, h | .integer _, h | .real _, h | .string _, h | .array _, h => by
    cases h

theorem spellsFilter_of_readNode {filter : Filter} :
    (members : List (String × Json)) → readNode engine context members = .ok filter →
      SpellsFilter engine context (.object members) filter
  | [], h => by
    cases h
    exact .all
  | [(tag, body)], h => by
    rw [readNode] at h
    split at h
    · next htag =>
      subst htag
      obtain ⟨inner, hinner, rfl⟩ := map_eq_ok_iff.mp h
      exact .not (spellsFilter_of_readFilter body hinner)
    · split at h
      · next htag =>
        subst htag
        obtain ⟨branches, hbranches, rfl⟩ := map_eq_ok_iff.mp h
        obtain ⟨items, rfl, hne, hitems⟩ := spellsFilters_of_readBranches body hbranches
        exact .and hne hitems
      · split at h
        · next htag =>
          subst htag
          obtain ⟨branches, hbranches, rfl⟩ := map_eq_ok_iff.mp h
          obtain ⟨items, rfl, hne, hitems⟩ := spellsFilters_of_readBranches body hbranches
          exact .or hne hitems
        · split at h
          · next htag =>
            subst htag
            obtain ⟨text, written, key, pattern, rfl, hkey, ⟨hpattern, hcompiled⟩, rfl⟩ :=
              readPattern_eq_ok_iff.mp h
            exact .accepts hkey hpattern hcompiled
          · obtain ⟨op, text, value, key, operand, hop, rfl, hkey, hoperand, rfl⟩ :=
              readComparison_eq_ok_iff.mp h
            exact .compare hop hkey hoperand
  | _ :: _ :: _, h => by cases h

theorem spellsFilters_of_readBranches {tag : String} {filters : List Filter} :
    (body : Json) → readBranches engine context tag body = .ok filters →
      ∃ items, body = .array items ∧ items ≠ [] ∧ SpellsFilters engine context items filters
  | .array [], h => by cases h
  | .array (item :: items), h => by
    simp only [readBranches, bind_eq_ok_iff, pure_eq_ok_iff] at h
    obtain ⟨filter, hfilter, others, hothers, rfl⟩ := h
    exact ⟨_, rfl, List.cons_ne_nil item items, .cons (spellsFilter_of_readFilter item hfilter)
      (spellsFilters_of_readFilters items hothers)⟩
  | .null, h | .bool _, h | .integer _, h | .real _, h | .string _, h | .object _, h => by
    cases h

theorem spellsFilters_of_readFilters {tag : String} {filters : List Filter} :
    (items : List Json) → readFilters engine context tag items = .ok filters →
      SpellsFilters engine context items filters
  | [], h => by
    cases h
    exact .nil
  | item :: items, h => by
    simp only [readFilters, bind_eq_ok_iff, pure_eq_ok_iff] at h
    obtain ⟨filter, hfilter, others, hothers, rfl⟩ := h
    exact .cons (spellsFilter_of_readFilter item hfilter)
      (spellsFilters_of_readFilters items hothers)

end

/-! A node of a filter is read as its tag says. -/

theorem readFilter_not {what : String} {body : Json} :
    readFilter engine context what (.object [("NOT", body)]) =
      (readFilter engine context "NOT" body).map .not := by
  rw [readFilter, readNode, if_pos rfl]

theorem readBranches_array {tag : String} {items : List Json} (hne : items ≠ []) :
    readBranches engine context tag (.array items) = readFilters engine context tag items := by
  cases items with
  | nil => exact absurd rfl hne
  | cons item items => rw [readBranches, readFilters]

theorem readFilter_and {what : String} {items : List Json} (hne : items ≠ []) :
    readFilter engine context what (.object [("AND", .array items)]) =
      (readFilters engine context "AND" items).map .and := by
  rw [readFilter, readNode, if_neg (by decide), if_pos rfl, readBranches_array hne]

theorem readFilter_or {what : String} {items : List Json} (hne : items ≠ []) :
    readFilter engine context what (.object [("OR", .array items)]) =
      (readFilters engine context "OR" items).map .or := by
  rw [readFilter, readNode, if_neg (by decide), if_neg (by decide), if_pos rfl,
    readBranches_array hne]

theorem readFilter_is {what : String} {body : Json} :
    readFilter engine context what (.object [("IS", body)]) = readPattern engine context body := by
  rw [readFilter, readNode, if_neg (by decide), if_neg (by decide), if_neg (by decide), if_pos rfl]

theorem readFilter_comparison {what tag : String} {body : Json} {op : Comparator}
    (h : Comparator.ofTag? tag = some op) :
    readFilter engine context what (.object [(tag, body)]) = readComparison context tag body := by
  have hother : ∀ name, Comparator.ofTag? name = none → tag ≠ name := by
    rintro name hname rfl
    rw [hname] at h
    cases h
  rw [readFilter, readNode, if_neg (hother "NOT" rfl), if_neg (hother "AND" rfl),
    if_neg (hother "OR" rfl), if_neg (hother "IS" rfl)]

mutual

theorem SpellsFilter.readFilter {what : String} {value : Json} {filter : Filter}
    (h : SpellsFilter engine context value filter) :
    Registrar.readFilter engine context what value = .ok filter := by
  cases h with
  | all => rfl
  | not hinner =>
    rw [readFilter_not, hinner.readFilter]
    rfl
  | and hne hbranches =>
    rw [readFilter_and hne, hbranches.readFilters]
    rfl
  | or hne hbranches =>
    rw [readFilter_or hne, hbranches.readFilters]
    rfl
  | accepts hkey hpattern hcompiled =>
    rw [readFilter_is]
    exact readPattern_eq_ok_iff.mpr ⟨_, _, _, _, rfl, hkey, ⟨hpattern, hcompiled⟩, rfl⟩
  | compare htag hkey hnumber =>
    rw [readFilter_comparison htag]
    exact readComparison_eq_ok_iff.mpr ⟨_, _, _, _, _, htag, rfl, hkey, hnumber, rfl⟩

theorem SpellsFilters.readFilters {tag : String} {items : List Json} {filters : List Filter}
    (h : SpellsFilters engine context items filters) :
    Registrar.readFilters engine context tag items = .ok filters := by
  cases h with
  | nil => rfl
  | cons hfirst hothers =>
    rw [Registrar.readFilters, hfirst.readFilter, hothers.readFilters]
    rfl

end

theorem readFilter_eq_ok_iff {what : String} {value : Json} {filter : Filter} :
    readFilter engine context what value = .ok filter ↔ SpellsFilter engine context value filter :=
  ⟨spellsFilter_of_readFilter value, SpellsFilter.readFilter⟩

/-! ### The whole query -/

/-- A query has a filter and options, and may have a transformation. The options have columns, and
may have an order. All keys name fields of one dataset, whose id is valid. -/
inductive SpellsQuery (engine : ExpressionEngine) (schema : Schema) : Json → Query → Prop where
  | intro {root options : List (String × Json)} {filterValue : Json} {columnValues : List Json}
      {id : String} {filter : Filter} {columns : List Column} {order : Option Order}
      {transformations : Option Transformations}
      (rootNamed : ∀ member ∈ root, member.1 ∈ rootNames)
      (hasFilter : root.lookup "WHERE" = some filterValue)
      (hasOptions : root.lookup "OPTIONS" = some (.object options))
      (optionsNamed : ∀ member ∈ options, member.1 ∈ optionNames)
      (hasColumns : options.lookup "COLUMNS" = some (.array columnValues))
      (validId : isValidId id = true)
      (transformationsSpell : Option.Rel (SpellsTransformations ⟨id, schema⟩)
        (root.lookup "TRANSFORMATIONS") transformations)
      (nonempty : columnValues ≠ [])
      (columnsSpell : List.Forall₂ (SpellsColumn ⟨id, schema⟩ transformations) columnValues columns)
      (orderSpells : Option.Rel (SpellsOrder columns) (options.lookup "ORDER") order)
      (filterSpells : SpellsFilter engine ⟨id, schema⟩ filterValue filter) :
      SpellsQuery engine schema (.object root) ⟨id, filter, columns, order, transformations⟩

theorem isValidId_of_queryDatasetId {tree : Json} {id : String}
    (h : queryDatasetId tree = .ok id) : isValidId id = true := by
  simp only [queryDatasetId, bind_eq_ok_iff, Prod.exists] at h
  obtain ⟨_, -, _, -, found, _, -, h⟩ := h
  split at h
  · next hvalid =>
    cases h
    exact hvalid
  · exact absurd h throw_ne_ok

theorem firstText?_eq_some {name text : String} {members : List (String × Json)}
    {items : List Json} (h : members.lookup name = some (.array (.string text :: items))) :
    firstText? name (.object members) = some text := by
  simp [firstText?, Json.member, Json.member?, h, Json.items?, Json.string?]

theorem queryDatasetId_of_firstKey {root : List (String × Json)} {text id : String}
    {key : FieldKey} {schema : Schema} {wanted : Option FieldKind}
    (hfirst : firstKey root = .ok text) (hkey : NamesField ⟨id, schema⟩ wanted text key)
    (hvalid : isValidId id = true) : queryDatasetId (.object root) = .ok id := by
  have hdataset : key.datasetId = id := hkey.dataset
  have hsplit : splitKey? text = some (id, key.field) := by
    rw [splitKey?_eq_some_iff, hkey.written, FieldKey.key, hdataset]
    exact ⟨rfl, hdataset ▸ hkey.plain⟩
  simp only [queryDatasetId, bind_eq_ok_iff, requireObject_eq_ok_iff, require_eq_ok_iff]
  exact ⟨root, rfl, text, hfirst, ⟨id, key.field⟩, hsplit, if_pos hvalid⟩

/-- The dataset is named by the first group key, which every transformation has. -/
theorem queryDatasetId_of_spellsTransformations {root : List (String × Json)} {id : String}
    {schema : Schema} {value : Json} {transformations : Transformations}
    (hvalue : root.lookup "TRANSFORMATIONS" = some value)
    (h : SpellsTransformations ⟨id, schema⟩ value transformations)
    (hvalid : isValidId id = true) : queryDatasetId (.object root) = .ok id := by
  obtain ⟨hmembers, hne, hkeys, -, -⟩ := h
  obtain ⟨-, hgroup, -⟩ := (perm_pair_iff (by decide)).mp hmembers
  cases hkeys with
  | nil => exact absurd rfl hne
  | cons hfirst =>
    obtain ⟨text, rfl, hkey⟩ := hfirst
    refine queryDatasetId_of_firstKey ?_ hkey hvalid
    simp only [firstKey, hvalue, bind_eq_ok_iff, requireObject_eq_ok_iff, require_eq_ok_iff]
    exact ⟨_, rfl, firstText?_eq_some hgroup⟩

/-- Without groups the dataset is named by the first column. -/
theorem queryDatasetId_of_spellsColumns {root options : List (String × Json)} {id : String}
    {schema : Schema} {values : List Json} {columns : List Column}
    (hnone : root.lookup "TRANSFORMATIONS" = none)
    (hoptions : root.lookup "OPTIONS" = some (.object options))
    (hvalues : options.lookup "COLUMNS" = some (.array values)) (hne : values ≠ [])
    (h : List.Forall₂ (SpellsColumn ⟨id, schema⟩ none) values columns)
    (hvalid : isValidId id = true) : queryDatasetId (.object root) = .ok id := by
  cases h with
  | nil => exact absurd rfl hne
  | cons hfirst =>
    obtain ⟨hkey⟩ := hfirst
    refine queryDatasetId_of_firstKey ?_ hkey hvalid
    simp only [firstKey, hnone, require_eq_ok_iff, Json.member, Json.member?, hoptions,
      Option.getD_some]
    exact firstText?_eq_some hvalues

theorem queryDatasetId_of_spells {root options : List (String × Json)} {id : String}
    {schema : Schema} {values : List Json} {columns : List Column}
    {transformations : Option Transformations}
    (htransformations : Option.Rel (SpellsTransformations ⟨id, schema⟩)
      (root.lookup "TRANSFORMATIONS") transformations)
    (hoptions : root.lookup "OPTIONS" = some (.object options))
    (hvalues : options.lookup "COLUMNS" = some (.array values)) (hne : values ≠ [])
    (h : List.Forall₂ (SpellsColumn ⟨id, schema⟩ transformations) values columns)
    (hvalid : isValidId id = true) : queryDatasetId (.object root) = .ok id := by
  cases hvalue : root.lookup "TRANSFORMATIONS" with
  | some value =>
    rw [hvalue] at htransformations
    obtain ⟨htransformations⟩ := htransformations
    exact queryDatasetId_of_spellsTransformations hvalue htransformations hvalid
  | none =>
    rw [hvalue] at htransformations
    cases htransformations
    exact queryDatasetId_of_spellsColumns hvalue hoptions hvalues hne h hvalid

/-- When everything but the filter of a tree is spelled, reading the tree is reading its filter. -/
theorem validateWith_eq_map_readFilter {root options : List (String × Json)} {filterValue : Json}
    {values : List Json} {id : String} {schema : Schema} {columns : List Column}
    {order : Option Order} {transformations : Option Transformations}
    (hroot : ∀ member ∈ root, member.1 ∈ rootNames)
    (hfilterValue : root.lookup "WHERE" = some filterValue)
    (hoptionsValue : root.lookup "OPTIONS" = some (.object options))
    (hoptions : ∀ member ∈ options, member.1 ∈ optionNames)
    (hvalues : options.lookup "COLUMNS" = some (.array values)) (hvalid : isValidId id = true)
    (htransformations : Option.Rel (SpellsTransformations ⟨id, schema⟩)
      (root.lookup "TRANSFORMATIONS") transformations) (hne : values ≠ [])
    (hcolumns : List.Forall₂ (SpellsColumn ⟨id, schema⟩ transformations) values columns)
    (horder : Option.Rel (SpellsOrder columns) (options.lookup "ORDER") order) :
    validateWith engine (.object root) schema =
      (readFilter engine ⟨id, schema⟩ "WHERE" filterValue).map
        fun filter => ⟨id, filter, columns, order, transformations⟩ := by
  have hrootNames : requireNames rootNames .unexpectedKey root = .ok () :=
    requireNames_eq_ok_iff.mpr hroot
  have hoptionNames : requireNames optionNames .unexpectedOption options = .ok () :=
    requireNames_eq_ok_iff.mpr hoptions
  have hid := queryDatasetId_of_spells htransformations hoptionsValue hvalues hne hcolumns hvalid
  have hgroups := (readOptional_eq_ok_iff fun _ _ => readTransformations_eq_ok_iff).mpr
    htransformations
  have hread : readColumns ⟨id, schema⟩ transformations (.array values) = .ok columns := by
    simp only [readColumns, bind_eq_ok_iff, requireItems_eq_ok_iff, mapM_eq_ok_iff,
      readColumn_eq_ok_iff]
    exact ⟨values, ⟨rfl, hne⟩, hcolumns⟩
  have hkeys := (readOptional_eq_ok_iff fun _ _ => readOrder_eq_ok_iff).mpr horder
  simp only [validateWith, requireObject, require, bind_ok, hrootNames, hfilterValue, hoptionsValue,
    hid, hgroups, hoptionNames, hvalues, hread, hkeys]
  rfl

/-- **Reading is the inverse of spelling.** A tree is read as a query exactly if it spells it. -/
theorem validateWith_eq_ok_iff {schema : Schema} {tree : Json} {query : Query} :
    validateWith engine tree schema = .ok query ↔ SpellsQuery engine schema tree query := by
  constructor
  · intro h
    simp only [validateWith, readColumns, bind_eq_ok_iff, requireObject_eq_ok_iff,
      requireNames_eq_ok_iff, require_eq_ok_iff, requireItems_eq_ok_iff, mapM_eq_ok_iff,
      readOptional_eq_ok_iff fun _ _ => readTransformations_eq_ok_iff,
      readOptional_eq_ok_iff fun _ _ => readOrder_eq_ok_iff, readColumn_eq_ok_iff,
      readFilter_eq_ok_iff, pure_eq_ok_iff] at h
    obtain ⟨root, rfl, -, hroot, filterValue, hfilterValue, _, hoptionsValue, options, rfl, id,
      hid, transformations, htransformations, -, hoptions, _, hcolumnsValue, columns,
      ⟨items, ⟨rfl, hne⟩, hcolumns⟩, order, horder, filter, hfilter, rfl⟩ := h
    exact ⟨hroot, hfilterValue, hoptionsValue, hoptions, hcolumnsValue,
      isValidId_of_queryDatasetId hid, htransformations, hne, hcolumns, horder, hfilter⟩
  · rintro ⟨hroot, hfilterValue, hoptionsValue, hoptions, hcolumnsValue, hvalid, htransformations,
      hne, hcolumns, horder, hfilter⟩
    rw [validateWith_eq_map_readFilter hroot hfilterValue hoptionsValue hoptions hcolumnsValue
      hvalid htransformations hne hcolumns horder]
    exact map_eq_ok_iff.mpr ⟨_, readFilter_eq_ok_iff.mpr hfilter, rfl⟩

/-- What is read is what is spelled with the library of queries. -/
theorem validate_eq_ok_iff {schema : Schema} {tree : Json} {query : Query} :
    validate tree schema = .ok query ↔ SpellsQuery .standard schema tree query :=
  validateWith_eq_ok_iff

end Registrar
