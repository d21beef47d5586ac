import Registrar.Proofs.Query.Typing

/-!
# Checking against a larger schema

As long as the kind of a dataset is not known, queries to it are checked against the fields of all
kinds. This refuses nothing that the schema of the kind accepts, and it reads the same query: a
schema only says which fields there are, and of what kind, so what a tree spells under one schema it
spells under every schema that has the same fields with the same kinds and more.

That the union of all schemas is such a schema has to be checked: a name that were numeric in one
kind and textual in another would be numeric in the union.

The other way, from the union to the kind, only one thing can go wrong: a field is missing. All else
that a query can be refused for has been looked at by the first check, the patterns included.

## Main definitions

* `Schema.Extends` — all fields of the one schema are fields of the other, of the same kinds.
* `ReadsIfKnown` — a value is read, unless a field is not in the schema.

## Main results

* `SpellsQuery.extend` — a tree spells the same query under a larger schema.
* `Schema.any_extends` — the union of all schemas extends each of them.
* `validate_any_of_validate` — what is accepted for a kind is accepted, as the same query, for all.
* `SpellsQuery.readsIfKnown` — a tree spells the same query under a smaller schema, or names a field
  that is not in it.
* `validate_eq_ok_or_unknownField` — what is accepted for all is accepted for a kind, or names a
  field that the kind does not have.
-/

namespace Registrar

/-! ### Schemas -/

/-- All fields of the smaller schema are fields of the larger one, of the same kinds. -/
def Schema.Extends (larger smaller : Schema) : Prop :=
  ∀ name kind, smaller.fieldKind? name = some kind → larger.fieldKind? name = some kind

/-- **The union of all schemas extends each of them.** -/
theorem Schema.any_extends (kind : DatasetKind) : Schema.any.Extends kind.schema := by
  have hmeasures : ∀ name ∈ kind.schema.measures, name ∈ Schema.any.measures := by
    cases kind <;> decide
  have hstrings : ∀ name ∈ kind.schema.strings, name ∈ Schema.any.strings := by
    cases kind <;> decide
  have hapart : ∀ name ∈ Schema.any.strings, name ∉ Schema.any.measures := by decide
  intro name fieldKind h
  rw [Schema.fieldKind?_eq_some_iff] at h ⊢
  obtain ⟨hname, rfl⟩ | ⟨-, hname, rfl⟩ := h
  · exact .inl ⟨hmeasures name hname, rfl⟩
  · exact .inr ⟨hapart name (hstrings name hname), hstrings name hname, rfl⟩

variable {engine : ExpressionEngine} {id : String} {smaller larger : Schema}

/-! ### Keys, groups and columns -/

theorem NamesField.extend {wanted : Option FieldKind} {text : String} {key : FieldKey}
    (h : larger.Extends smaller) (hkey : NamesField ⟨id, smaller⟩ wanted text key) :
    NamesField ⟨id, larger⟩ wanted text key := by
  obtain ⟨hdataset, hplain, hwritten, kind, hkind, hwanted⟩ := hkey
  exact ⟨hdataset, hplain, hwritten, kind, h _ _ hkind, hwanted⟩

theorem SpellsKey.extend {value : Json} {key : FieldKey} (h : larger.Extends smaller)
    (hkey : SpellsKey ⟨id, smaller⟩ value key) : SpellsKey ⟨id, larger⟩ value key := by
  obtain ⟨text, rfl, hnames⟩ := hkey
  exact ⟨text, rfl, hnames.extend h⟩

theorem SpellsRule.extend {value : Json} {rule : ApplyRule} (h : larger.Extends smaller)
    (hrule : SpellsRule ⟨id, smaller⟩ value rule) : SpellsRule ⟨id, larger⟩ value rule := by
  obtain ⟨hnonempty, hplain, hknown, htarget⟩ := hrule
  exact .intro hnonempty hplain hknown (htarget.extend h)

theorem SpellsTransformations.extend {value : Json} {transformations : Transformations}
    (h : larger.Extends smaller)
    (htransformations : SpellsTransformations ⟨id, smaller⟩ value transformations) :
    SpellsTransformations ⟨id, larger⟩ value transformations := by
  obtain ⟨hparts, hne, hkeys, hrules, hdistinct⟩ := htransformations
  exact .intro hparts hne (hkeys.imp fun _ _ hkey => hkey.extend h)
    (hrules.imp fun _ _ hrule => hrule.extend h) hdistinct

theorem SpellsColumn.extend {transformations : Option Transformations} {value : Json}
    {column : Column} (h : larger.Extends smaller)
    (hcolumn : SpellsColumn ⟨id, smaller⟩ transformations value column) :
    SpellsColumn ⟨id, larger⟩ transformations value column := by
  cases hcolumn with
  | field known => exact .field (known.extend h)
  | group found => exact .group found
  | applied missing found => exact .applied missing found

/-! ### Filters -/

mutual

theorem SpellsFilter.extend {value : Json} {filter : Filter} (h : larger.Extends smaller)
    (hfilter : SpellsFilter engine ⟨id, smaller⟩ value filter) :
    SpellsFilter engine ⟨id, larger⟩ value filter := by
  cases hfilter with
  | all => exact .all
  | not inner => exact .not (inner.extend h)
  | and nonempty branches => exact .and nonempty (branches.extend h)
  | or nonempty branches => exact .or nonempty (branches.extend h)
  | accepts known wellFormed compiled => exact .accepts (known.extend h) wellFormed compiled
  | compare tagKnown known isNumber => exact .compare tagKnown (known.extend h) isNumber

theorem SpellsFilters.extend {items : List Json} {filters : List Filter}
    (h : larger.Extends smaller) (hfilters : SpellsFilters engine ⟨id, smaller⟩ items filters) :
    SpellsFilters engine ⟨id, larger⟩ items filters := by
  cases hfilters with
  | nil => exact .nil
  | cons first others => exact .cons (first.extend h) (others.extend h)

end

/-! ### Queries -/

/-- **A tree spells the same query under a larger schema.** -/
theorem SpellsQuery.extend {tree : Json} {query : Query} (h : larger.Extends smaller)
    (hquery : SpellsQuery engine smaller tree query) : SpellsQuery engine larger tree query := by
  obtain ⟨hroot, hfilterValue, hoptionsValue, hoptions, hcolumnsValue, hvalid, htransformations,
    hne, hcolumns, horder, hfilter⟩ := hquery
  exact ⟨hroot, hfilterValue, hoptionsValue, hoptions, hcolumnsValue, hvalid,
    rel_imp htransformations fun _ _ hspells => hspells.extend h, hne,
    hcolumns.imp fun _ _ hspells => hspells.extend h, horder, hfilter.extend h⟩

/-- **What is accepted for a kind of datasets is accepted, as the same query, before the kind is
known.** -/
theorem validate_any_of_validate {tree : Json} {kind : DatasetKind} {query : Query}
    (h : validate tree kind.schema = .ok query) : validate tree .any = .ok query :=
  validate_eq_ok_iff.mpr ((validate_eq_ok_iff.mp h).extend (Schema.any_extends kind))

/-! ### Against a smaller schema -/

/-- The value is read, unless a field is not in the schema. -/
def ReadsIfKnown {α : Type} (outcome : Except Fault α) (value : α) : Prop :=
  outcome = .ok value ∨ ∃ key, outcome = .error (.unknownField key)

namespace ReadsIfKnown

variable {α β : Type} {x : Except Fault α} {f : α → Except Fault β} {a : α} {b : β}

theorem of_eq (h : x = .ok a) : ReadsIfKnown x a :=
  .inl h

theorem bind (hx : ReadsIfKnown x a) (hf : ReadsIfKnown (f a) b) : ReadsIfKnown (x >>= f) b := by
  obtain rfl | ⟨key, rfl⟩ := hx
  · exact hf
  · exact .inr ⟨key, rfl⟩

theorem map (hx : ReadsIfKnown x a) (g : α → β) : ReadsIfKnown (x.map g) (g a) := by
  obtain rfl | ⟨key, rfl⟩ := hx
  · exact .inl rfl
  · exact .inr ⟨key, rfl⟩

theorem mapM {xs : List α} {ys : List β}
    (h : List.Forall₂ (fun x y => ReadsIfKnown (f x) y) xs ys) : ReadsIfKnown (xs.mapM f) ys := by
  induction h with
  | nil => exact .inl rfl
  | cons hxy _ ih =>
    rw [List.mapM_cons]
    exact hxy.bind (ih.bind (.inl rfl))

/-- A part that may be missing. -/
theorem readOptional {read : Json → Except Fault α} {spells : Json → α → Prop}
    {value : Option Json} {result : Option α} (h : Option.Rel spells value result)
    (hread : ∀ value a, spells value a → ReadsIfKnown (read value) a) :
    ReadsIfKnown (Registrar.readOptional read value) result := by
  cases h with
  | none => exact .inl rfl
  | some hspells => exact (hread _ _ hspells).map some

end ReadsIfKnown

theorem NamesField.readsIfKnown {wanted : Option FieldKind} {text : String} {key : FieldKey}
    (h : larger.Extends smaller) (hkey : NamesField ⟨id, larger⟩ wanted text key) :
    ReadsIfKnown (readKey ⟨id, smaller⟩ wanted text) key := by
  obtain ⟨hdataset, hplain, hwritten, kind, hkind, hwanted⟩ := hkey
  cases hfield : smaller.fieldKind? key.field with
  | none =>
    have hsplit : splitKey? text = some (key.datasetId, key.field) :=
      splitKey?_eq_some_iff.mpr ⟨hwritten, hplain⟩
    refine .inr ⟨text, ?_⟩
    simp only [readKey, hsplit, require, bind_ok, hdataset, ne_eq, not_true_eq_false, if_false,
      hfield]
    rfl
  | some found =>
    obtain rfl : found = kind := Option.some.inj ((h _ _ hfield).symm.trans hkind)
    exact .inl (readKey_eq_ok_iff.mpr ⟨hdataset, hplain, hwritten, found, hfield, hwanted⟩)

theorem SpellsKey.readsIfKnown {value : Json} {key : FieldKey} (h : larger.Extends smaller)
    (hkey : SpellsKey ⟨id, larger⟩ value key) :
    ReadsIfKnown (readKeyValue ⟨id, smaller⟩ none value) key := by
  obtain ⟨text, rfl, hnames⟩ := hkey
  exact hnames.readsIfKnown h

theorem SpellsRule.readsIfKnown {value : Json} {rule : ApplyRule} (h : larger.Extends smaller)
    (hrule : SpellsRule ⟨id, larger⟩ value rule) :
    ReadsIfKnown (readApplyRule ⟨id, smaller⟩ value) rule := by
  obtain @⟨name, token, text, aggregate, key, hnonempty, hplain, hknown, htarget⟩ := hrule
  have hname : ¬(name.isEmpty || name.toList.contains keySeparator) = true := by
    simpa using ⟨hnonempty, hplain⟩
  rw [readApplyRule]
  refine .bind (.of_eq rfl) ?_
  dsimp only
  rw [if_neg hname]
  refine .bind (.of_eq rfl) (.bind (.of_eq (require_eq_ok_iff.mpr hknown)) ?_)
  exact .bind (htarget.readsIfKnown h) (.of_eq rfl)

theorem readsIfKnown_readApplyRules {seen : List String} {values : List Json}
    {rules : List ApplyRule} (h : larger.Extends smaller)
    (hrules : List.Forall₂ (SpellsRule ⟨id, larger⟩) values rules)
    (hdistinct : (rules.map ApplyRule.name).Nodup) (hseen : ∀ rule ∈ rules, rule.name ∉ seen) :
    ReadsIfKnown (readApplyRules ⟨id, smaller⟩ seen values) rules := by
  induction hrules generalizing seen with
  | nil => exact .of_eq rfl
  | @cons value rule values rules hrule _ ih =>
    obtain ⟨hfresh, hothers⟩ := List.forall_mem_cons.mp hseen
    rw [List.map_cons, List.nodup_cons] at hdistinct
    have hothers : ∀ other ∈ rules, other.name ∉ rule.name :: seen := by
      intro other hother hmem
      obtain hname | hmem := List.mem_cons.mp hmem
      · exact hdistinct.1 (hname ▸ List.mem_map_of_mem hother)
      · exact hothers other hother hmem
    rw [readApplyRules]
    refine .bind (hrule.readsIfKnown h) ?_
    rw [if_neg (by simpa using hfresh)]
    exact .bind (ih hdistinct.2 hothers) (.of_eq rfl)

theorem SpellsTransformations.readsIfKnown {value : Json} {transformations : Transformations}
    (h : larger.Extends smaller)
    (htransformations : SpellsTransformations ⟨id, larger⟩ value transformations) :
    ReadsIfKnown (readTransformations ⟨id, smaller⟩ value) transformations := by
  obtain ⟨hparts, hne, hkeys, hrules, hdistinct⟩ := htransformations
  obtain ⟨hlength, hgroup, happly⟩ := (perm_pair_iff (by decide)).mp hparts
  rw [readTransformations]
  refine .bind (.of_eq rfl) ?_
  rw [hlength, hgroup, happly]
  refine .bind (.of_eq (requireItems_eq_ok_iff.mpr ⟨rfl, hne⟩)) ?_
  refine .bind (.mapM (hkeys.imp fun _ _ hkey => hkey.readsIfKnown h)) (.bind (.of_eq rfl) ?_)
  exact .bind (readsIfKnown_readApplyRules h hrules hdistinct (by simp)) (.of_eq rfl)

theorem SpellsColumn.readsIfKnown {transformations : Option Transformations} {value : Json}
    {column : Column} (h : larger.Extends smaller)
    (hcolumn : SpellsColumn ⟨id, larger⟩ transformations value column) :
    ReadsIfKnown (readColumn ⟨id, smaller⟩ transformations value) column := by
  cases hcolumn with
  | field known => exact (known.readsIfKnown h).map Column.field
  | group found => exact .of_eq (readColumn_eq_ok_iff.mpr (.group found))
  | applied missing found => exact .of_eq (readColumn_eq_ok_iff.mpr (.applied missing found))

mutual

theorem SpellsFilter.readsIfKnown {what : String} {value : Json} {filter : Filter}
    (h : larger.Extends smaller) (hfilter : SpellsFilter engine ⟨id, larger⟩ value filter) :
    ReadsIfKnown (readFilter engine ⟨id, smaller⟩ what value) filter := by
  cases hfilter with
  | all => exact .of_eq rfl
  | not inner =>
    rw [readFilter_not]
    exact (inner.readsIfKnown h).map Filter.not
  | and nonempty branches =>
    rw [readFilter_and nonempty]
    exact (branches.readsIfKnown h).map Filter.and
  | or nonempty branches =>
    rw [readFilter_or nonempty]
    exact (branches.readsIfKnown h).map Filter.or
  | accepts known wellFormed compiled =>
    obtain ⟨program, hprepare⟩ :=
      ExpressionEngine.exists_prepare_eq_ok_iff.mpr ⟨wellFormed, compiled⟩
    rw [readFilter_is, readPattern]
    exact .bind (.of_eq rfl) (.bind (known.readsIfKnown h)
      (.bind (.of_eq rfl) (.bind (.of_eq hprepare) (.of_eq rfl))))
  | compare tagKnown known isNumber =>
    rw [readFilter_comparison tagKnown, readComparison]
    exact .bind (.of_eq (require_eq_ok_iff.mpr tagKnown)) (.bind (.of_eq rfl)
      (.bind (known.readsIfKnown h) (.bind (.of_eq (require_eq_ok_iff.mpr isNumber)) (.of_eq rfl))))

theorem SpellsFilters.readsIfKnown {tag : String} {items : List Json} {filters : List Filter}
    (h : larger.Extends smaller) (hfilters : SpellsFilters engine ⟨id, larger⟩ items filters) :
    ReadsIfKnown (readFilters engine ⟨id, smaller⟩ tag items) filters := by
  cases hfilters with
  | nil => exact .of_eq rfl
  | cons first others =>
    rw [readFilters]
    exact .bind (first.readsIfKnown h) (.bind (others.readsIfKnown h) (.of_eq rfl))

end

/-- **A tree spells the same query under a smaller schema, unless a field is not in it.** -/
theorem SpellsQuery.readsIfKnown {tree : Json} {query : Query} (h : larger.Extends smaller)
    (hquery : SpellsQuery engine larger tree query) :
    ReadsIfKnown (validateWith engine tree smaller) query := by
  obtain ⟨hroot, hfilterValue, hoptionsValue, hoptions, hcolumnsValue, hvalid, htransformations,
    hne, hcolumns, horder, hfilter⟩ := hquery
  have hid := queryDatasetId_of_spells htransformations hoptionsValue hcolumnsValue hne hcolumns
    hvalid
  have hrootNames : requireNames rootNames .unexpectedKey _ = .ok () :=
    requireNames_eq_ok_iff.mpr hroot
  have hoptionNames : requireNames optionNames .unexpectedOption _ = .ok () :=
    requireNames_eq_ok_iff.mpr hoptions
  simp only [validateWith, requireObject, require, bind_ok, hrootNames, hfilterValue, hoptionsValue,
    hid, hoptionNames, hcolumnsValue]
  refine .bind (.readOptional htransformations fun _ _ hspells => hspells.readsIfKnown h) ?_
  refine .bind (.bind (.of_eq (requireItems_eq_ok_iff.mpr ⟨rfl, hne⟩))
    (.mapM (hcolumns.imp fun _ _ hspells => hspells.readsIfKnown h))) ?_
  refine .bind (.readOptional horder fun _ _ hspells => .of_eq (readOrder_eq_ok_iff.mpr hspells)) ?_
  exact .bind (hfilter.readsIfKnown h) (.of_eq rfl)

/-- **If a tree is accepted before the kind is known, it is accepted for the kind, as the same
query, or it names a field that the kind does not have.** -/
theorem validate_eq_ok_or_unknownField {tree : Json} {query : Query} (kind : DatasetKind)
    (h : validate tree .any = .ok query) : validate tree kind.schema = .ok query ∨
      ∃ key, validate tree kind.schema = .error (.unknownField key) :=
  (validate_eq_ok_iff.mp h).readsIfKnown (Schema.any_extends kind)

end Registrar
