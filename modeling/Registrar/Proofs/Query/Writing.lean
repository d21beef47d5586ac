import Registrar.Proofs.Json.Likeness
import Registrar.Proofs.Query.Spelling

/-!
# Queries written back

A query can be written as a tree again, and the tree that it was read from is that tree, up to the
order of members and the spelling of numbers. So nothing in a tree is dropped when it is read: what
was not in the query could not be written back.

For two trees that are read as the same query this says that they are the same value. There the
numbers are compared as queries compare them, by numeric equality. The two statements differ only in
which numbers count as the same, so they are proved as one, for trees that spell queries which are
the same up to a relation of numbers.

## Main definitions

* `Query.toTree` — a query written as a tree.
* `Query.same` — two queries are the same, patterns compared by their text.
* `Query.Alike` — two queries are the same up to a relation of their numbers.

## Main results

* `SpellsQuery.alike` — trees that spell the same query are the same value.
* `SpellsQuery.toTree` — a query that was read is spelled by the tree that is written for it.
* `validate_drops_nothing` — the two, for the trees that are accepted.
-/

namespace Registrar

/-! ### Writing -/

namespace Direction

/-- The name of a direction. -/
def name : Direction → String
  | up => "UP"
  | down => "DOWN"

theorem ofText?_eq_some_iff {text : String} {direction : Direction} :
    ofText? text = some direction ↔ text = direction.name := by
  constructor
  · intro h
    unfold ofText? at h
    split at h <;> cases h <;> rfl
  · rintro rfl
    cases direction <;> rfl

end Direction

theorem Comparator.ofTag?_eq_some_iff {tag : String} {op : Comparator} :
    ofTag? tag = some op ↔ tag = op.tag := by
  constructor
  · intro h
    unfold ofTag? at h
    split at h <;> cases h <;> rfl
  · rintro rfl
    cases op <;> rfl

theorem Aggregate.ofText?_eq_some_iff {text : String} {aggregate : Aggregate} :
    ofText? text = some aggregate ↔ text = aggregate.name := by
  constructor
  · intro h
    unfold ofText? at h
    split at h <;> cases h <;> rfl
  · rintro rfl
    cases aggregate <;> rfl

namespace Filter

mutual

/-- A filter as a tree. -/
def toTree : Filter → Json
  | all => .object []
  | not inner => .object [("NOT", inner.toTree)]
  | and branches => .object [("AND", .array (toTrees branches))]
  | or branches => .object [("OR", .array (toTrees branches))]
  | compare op key operand => .object [(op.tag, .object [(key.key, .real operand)])]
  | accepts key pattern => .object [("IS", .object [(key.key, .string pattern.text)])]

/-- Filters as trees, one by one. -/
def toTrees : List Filter → List Json
  | [] => []
  | filter :: filters => filter.toTree :: toTrees filters

end

end Filter

/-- An aggregate as a tree. -/
def ApplyRule.toTree (rule : ApplyRule) : Json :=
  .object [(rule.name, .object [(rule.aggregate.name, .string rule.key.key)])]

/-- Groups and aggregates as a tree. -/
def Transformations.toTree (transformations : Transformations) : Json :=
  .object [("APPLY", .array (transformations.apply.map ApplyRule.toTree)),
    ("GROUP", .array ((transformations.group.map FieldKey.key).map .string))]

/-- An order as a tree. -/
def Order.toTree : Order → Json
  | single key => .string key
  | multi direction keys =>
    .object [("dir", .string direction.name), ("keys", .array (keys.map .string))]

namespace Query

/-- Columns and order as a tree. -/
def optionsTree (query : Query) : Json :=
  .object (("COLUMNS", .array (query.columnNames.map .string)) ::
    (query.order.map fun order => ("ORDER", order.toTree)).toList)

/-- A query as a tree. -/
def toTree (query : Query) : Json :=
  .object (("OPTIONS", query.optionsTree) ::
    ((query.transformations.map fun parts => ("TRANSFORMATIONS", parts.toTree)).toList ++
      [("WHERE", query.filter.toTree)]))

end Query

/-! ### The same query -/

/-- Two filters are the same up to a relation of numbers, patterns being told by their text. -/
inductive Filter.Alike (agree : Binary64 → Binary64 → Prop) : Filter → Filter → Prop
  | all : Alike agree .all .all
  | not {a b : Filter} (inner : Alike agree a b) : Alike agree (.not a) (.not b)
  | and {as bs : List Filter} (branches : List.Forall₂ (Alike agree) as bs) :
      Alike agree (.and as) (.and bs)
  | or {as bs : List Filter} (branches : List.Forall₂ (Alike agree) as bs) :
      Alike agree (.or as) (.or bs)
  | compare (op : Comparator) (key : FieldKey) {x y : Binary64} (operands : agree x y) :
      Alike agree (.compare op key x) (.compare op key y)
  | accepts (key : FieldKey) {p q : Pattern} (texts : p.text = q.text) :
      Alike agree (.accepts key p) (.accepts key q)

namespace Filter

mutual

theorem alike_refl : (filter : Filter) → filter.Alike Eq filter
  | all => .all
  | not inner => .not (alike_refl inner)
  | and branches => .and (forall₂_alike_refl branches)
  | or branches => .or (forall₂_alike_refl branches)
  | compare op key _ => .compare op key rfl
  | accepts key _ => .accepts key rfl

theorem forall₂_alike_refl :
    (filters : List Filter) → List.Forall₂ (Filter.Alike Eq) filters filters
  | [] => .nil
  | filter :: filters => .cons (alike_refl filter) (forall₂_alike_refl filters)

end

mutual

theorem alike_of_same : {a b : Filter} → a.same b = true → a.Alike (fun x y => x.eq y = true) b
  | all, all, _ => .all
  | not _, not _, h => .not (alike_of_same (by rwa [same] at h))
  | and _, and _, h => .and (forall₂_alike_of_same (by rwa [same] at h))
  | or _, or _, h => .or (forall₂_alike_of_same (by rwa [same] at h))
  | compare op key x, compare op' key' x', h => by
    simp only [same, Bool.and_eq_true, decide_eq_true_eq] at h
    obtain ⟨⟨rfl, rfl⟩, hoperands⟩ := h
    exact .compare op key hoperands
  | accepts key p, accepts key' p', h => by
    simp only [same, Bool.and_eq_true, decide_eq_true_eq, beq_iff_eq] at h
    obtain ⟨rfl, htexts⟩ := h
    exact .accepts key htexts

theorem forall₂_alike_of_same : {as bs : List Filter} → sameList as bs = true →
    List.Forall₂ (Filter.Alike fun x y => x.eq y = true) as bs
  | [], [], _ => .nil
  | _ :: _, _ :: _, h => by
    rw [sameList, Bool.and_eq_true] at h
    exact .cons (alike_of_same h.1) (forall₂_alike_of_same h.2)

end

end Filter

namespace Query

/-- Whether two queries are the same, numbers compared by value and patterns by their text. -/
def same (a b : Query) : Bool :=
  decide (a.datasetId = b.datasetId) && a.filter.same b.filter && decide (a.columns = b.columns) &&
    decide (a.order = b.order) && decide (a.transformations = b.transformations)

/-- Two queries are the same up to a relation of numbers. -/
structure Alike (agree : Binary64 → Binary64 → Prop) (a b : Query) : Prop where
  filter : a.filter.Alike agree b.filter
  columns : a.columns = b.columns
  order : a.order = b.order
  transformations : a.transformations = b.transformations

theorem alike_refl (query : Query) : query.Alike Eq query :=
  ⟨query.filter.alike_refl, rfl, rfl, rfl⟩

theorem alike_of_same {a b : Query} (h : a.same b = true) :
    a.Alike (fun x y => x.eq y = true) b := by
  simp only [same, Bool.and_eq_true, decide_eq_true_eq] at h
  obtain ⟨⟨⟨⟨-, hfilter⟩, hcolumns⟩, horder⟩, htransformations⟩ := h
  exact ⟨Filter.alike_of_same hfilter, hcolumns, horder, htransformations⟩

end Query

/-! ### Parts of trees -/

variable {engine : ExpressionEngine} {schema : Schema} {context : KeyContext}
  {agree : Binary64 → Binary64 → Prop}

theorem SpellsKey.written {value : Json} {key : FieldKey} (h : SpellsKey context value key) :
    value = .string key.key := by
  obtain ⟨text, rfl, hkey⟩ := h
  rw [hkey.written]

theorem SpellsRule.written {value : Json} {rule : ApplyRule} (h : SpellsRule context value rule) :
    value = rule.toTree := by
  obtain ⟨-, -, hknown, htarget⟩ := h
  rw [ApplyRule.toTree, Aggregate.ofText?_eq_some_iff.mp hknown, htarget.written]

theorem SpellsColumn.written {transformations : Option Transformations} {value : Json}
    {column : Column} (h : SpellsColumn context transformations value column) :
    value = .string column.name := by
  cases h with
  | field hknown => rw [hknown.written, Column.name]
  | @group _ text key hfound =>
    have hkey : key.key = text := by simpa using List.find?_some hfound
    rw [Column.name, hkey]
  | applied => rfl

/-- What is written for each part alone is written for a list of parts. -/
theorem eq_map_of_forall₂ {α β : Type} {spells : β → α → Prop} (write : α → β) {values : List β}
    {parts : List α} (h : List.Forall₂ spells values parts)
    (hwritten : ∀ {value part}, spells value part → value = write part) :
    values = parts.map write := by
  rw [← List.forall₂_eq_eq_eq, List.forall₂_map_right_iff]
  exact h.imp fun _ _ hspells => hwritten hspells

/-- Groups and aggregates are written as their tree, the two members in any order. -/
theorem SpellsTransformations.written {value : Json} {transformations : Transformations}
    (h : SpellsTransformations context value transformations) :
    ∃ members, value = .object members ∧ members.Perm
      [("APPLY", .array (transformations.apply.map ApplyRule.toTree)),
        ("GROUP", .array ((transformations.group.map FieldKey.key).map .string))] := by
  obtain ⟨hparts, -, hkeys, hrules, -⟩ := h
  refine ⟨_, rfl, ?_⟩
  rw [List.map_map, ← eq_map_of_forall₂ ApplyRule.toTree hrules SpellsRule.written]
  rw [eq_map_of_forall₂ (Json.string ∘ FieldKey.key) hkeys SpellsKey.written] at hparts
  exact hparts.trans (.swap _ _ _)

theorem ApplyRule.alike_toTree (rule : ApplyRule) : Json.Alike agree rule.toTree rule.toTree :=
  .single _ (.single _ (.string _))

theorem SpellsTransformations.alike {context' : KeyContext} {value value' : Json}
    {transformations : Transformations}
    (h : SpellsTransformations context value transformations)
    (h' : SpellsTransformations context' value' transformations) : value.Alike agree value' := by
  obtain ⟨members, rfl, hmembers⟩ := h.written
  obtain ⟨members', rfl, hmembers'⟩ := h'.written
  refine .of_perm_pair (by decide) hmembers hmembers' (.array ?_) (.strings _)
  rw [List.forall₂_same, List.forall_mem_map]
  exact fun rule _ => rule.alike_toTree

theorem SpellsOrder.alike {columns columns' : List Column} {value value' : Json} {order : Order}
    (h : SpellsOrder columns value order) (h' : SpellsOrder columns' value' order) :
    value.Alike agree value' := by
  cases h with
  | single =>
    cases h'
    exact .string _
  | multi hparts hknown =>
    cases h' with
    | multi hparts' hknown' =>
      obtain rfl := Direction.ofText?_eq_some_iff.mp hknown
      obtain rfl := Direction.ofText?_eq_some_iff.mp hknown'
      exact .of_perm_pair (by decide) hparts hparts' (.string _) (.strings _)

/-! ### Filters -/

mutual

theorem SpellsFilter.alike {context' : KeyContext} {value value' : Json} {filter filter' : Filter}
    (h : SpellsFilter engine context value filter)
    (h' : SpellsFilter engine context' value' filter')
    (halike : filter.Alike agree filter') : value.Alike agree value' := by
  cases h with
  | all =>
    cases halike
    cases h'
    exact .empty
  | not hinner =>
    cases halike with
    | not hsame =>
      cases h' with
      | not hinner' => exact .single _ (hinner.alike hinner' hsame)
  | and _ hbranches =>
    cases halike with
    | and hsame =>
      cases h' with
      | and _ hbranches' => exact .single _ (.array (hbranches.alike hbranches' hsame))
  | or _ hbranches =>
    cases halike with
    | or hsame =>
      cases h' with
      | or _ hbranches' => exact .single _ (.array (hbranches.alike hbranches' hsame))
  | accepts hkey hpattern =>
    cases halike with
    | accepts _ htexts =>
      cases h' with
      | accepts hkey' hpattern' =>
        rw [hkey.written, hkey'.written, ← Pattern.text_of_ofText? hpattern, htexts,
          Pattern.text_of_ofText? hpattern']
        exact .single _ (.single _ (.string _))
  | compare htag hkey hnumber =>
    cases halike with
    | compare _ _ hoperands =>
      cases h' with
      | compare htag' hkey' hnumber' =>
        rw [hkey.written, hkey'.written, Comparator.ofTag?_eq_some_iff.mp htag,
          Comparator.ofTag?_eq_some_iff.mp htag']
        exact .single _ (.single _ (.number hnumber hnumber' hoperands))

theorem SpellsFilters.alike {context' : KeyContext} {values values' : List Json}
    {filters filters' : List Filter} (h : SpellsFilters engine context values filters)
    (h' : SpellsFilters engine context' values' filters')
    (halike : List.Forall₂ (Filter.Alike agree) filters filters') :
    List.Forall₂ (Json.Alike agree) values values' := by
  cases h with
  | nil =>
    cases halike
    cases h'
    exact .nil
  | cons hfirst hothers =>
    cases halike with
    | cons hsame hrest =>
      cases h' with
      | cons hfirst' hothers' =>
        exact .cons (hfirst.alike hfirst' hsame) (hothers.alike hothers' hrest)

end

theorem SpellsFilters.toTrees_ne_nil {values : List Json} {filters : List Filter}
    (h : SpellsFilters engine context values filters) (hne : values ≠ []) :
    Filter.toTrees filters ≠ [] := by
  cases h with
  | nil => exact absurd rfl hne
  | cons => exact List.cons_ne_nil _ _

mutual

/-- A filter that was read is spelled by the tree that is written for it. -/
theorem SpellsFilter.toTree {value : Json} {filter : Filter}
    (h : SpellsFilter engine context value filter) :
    SpellsFilter engine context filter.toTree filter := by
  cases h with
  | all => exact .all
  | not hinner => exact .not hinner.toTree
  | and hne hbranches => exact .and (hbranches.toTrees_ne_nil hne) hbranches.toTrees
  | or hne hbranches => exact .or (hbranches.toTrees_ne_nil hne) hbranches.toTrees
  | accepts hkey hpattern hcompiled =>
    rw [Filter.toTree, Pattern.text_of_ofText? hpattern, ← hkey.written]
    exact .accepts hkey hpattern hcompiled
  | compare htag hkey hnumber =>
    rw [Filter.toTree, ← Comparator.ofTag?_eq_some_iff.mp htag, ← hkey.written]
    exact .compare htag hkey rfl

theorem SpellsFilters.toTrees {values : List Json} {filters : List Filter}
    (h : SpellsFilters engine context values filters) :
    SpellsFilters engine context (Filter.toTrees filters) filters := by
  cases h with
  | nil => exact .nil
  | cons hfirst hothers => exact .cons hfirst.toTree hothers.toTrees

end

/-! ### The whole query -/

theorem SpellsTransformations.toTree {value : Json} {transformations : Transformations}
    (h : SpellsTransformations context value transformations) :
    SpellsTransformations context transformations.toTree transformations := by
  obtain ⟨-, hne, hkeys, hrules, hdistinct⟩ := h
  obtain rfl := eq_map_of_forall₂ (Json.string ∘ FieldKey.key) hkeys SpellsKey.written
  obtain rfl := eq_map_of_forall₂ ApplyRule.toTree hrules SpellsRule.written
  rw [Transformations.toTree, List.map_map]
  exact .intro (.swap _ _ _) hne hkeys hrules hdistinct

theorem SpellsOrder.toTree {columns : List Column} {value : Json} {order : Order}
    (h : SpellsOrder columns value order) : SpellsOrder columns order.toTree order := by
  cases h with
  | single hshown => exact .single hshown
  | multi _ hknown hne hshown =>
    rw [Direction.ofText?_eq_some_iff] at hknown
    subst hknown
    exact .multi (.refl _) (Direction.ofText?_eq_some_iff.mpr rfl) hne hshown

/-- Parts that may be missing are written one by one. -/
theorem rel_map_of_rel {α β : Type} {spells : β → α → Prop} {write : α → β} {value : Option β}
    {part : Option α} (h : Option.Rel spells value part)
    (hwritten : ∀ {value part}, spells value part → spells (write part) part) :
    Option.Rel spells (part.map write) part := by
  cases h with
  | none => exact .none
  | some h => exact .some (hwritten h)

theorem rel_of_rel {α β : Type} {spells spells' : β → α → Prop} {alike : β → β → Prop}
    {value value' : Option β} {part : Option α} (h : Option.Rel spells value part)
    (h' : Option.Rel spells' value' part)
    (halike : ∀ {value value' part}, spells value part → spells' value' part → alike value value') :
    Option.Rel alike value value' := by
  cases h with
  | none =>
    cases h'
    exact .none
  | some h =>
    cases h' with
    | some h' => exact .some (halike h h')

namespace SpellsQuery

/-- **Trees that spell the same query are the same value.** -/
theorem alike {schema' : Schema} {tree tree' : Json} {query query' : Query}
    (h : SpellsQuery engine schema tree query) (h' : SpellsQuery engine schema' tree' query')
    (halike : query.Alike agree query') : tree.Alike agree tree' := by
  obtain ⟨hroot, hfilter, hoptions, hnamed, hcolumns, -, htransformations, -, hshown, horder,
    hcondition⟩ := h
  obtain ⟨hroot', hfilter', hoptions', hnamed', hcolumns', -, htransformations', -, hshown',
    horder', hcondition'⟩ := h'
  obtain ⟨hsame, hsameColumns, hsameOrder, hsameTransformations⟩ := halike
  dsimp only at hsame hsameColumns hsameOrder hsameTransformations
  subst hsameColumns hsameOrder hsameTransformations
  obtain rfl := eq_map_of_forall₂ (Json.string ∘ Column.name) hshown SpellsColumn.written
  obtain rfl := eq_map_of_forall₂ (Json.string ∘ Column.name) hshown' SpellsColumn.written
  rw [← List.map_map] at hcolumns hcolumns'
  have hwhere := hcondition.alike hcondition' hsame
  have hoptionsAlike : Json.Alike agree _ _ := .of_names hnamed hnamed' fun name hname => by
    simp only [optionNames, List.mem_cons, List.not_mem_nil, or_false] at hname
    obtain rfl | rfl := hname
    · rw [hcolumns, hcolumns']
      exact .some (.strings _)
    · exact rel_of_rel horder horder' SpellsOrder.alike
  refine .of_names hroot hroot' fun name hname => ?_
  simp only [rootNames, List.mem_cons, List.not_mem_nil, or_false] at hname
  obtain rfl | rfl | rfl := hname
  · rw [hfilter, hfilter']
    exact .some hwhere
  · rw [hoptions, hoptions']
    exact .some hoptionsAlike
  · exact rel_of_rel htransformations htransformations' SpellsTransformations.alike

/-- **A query that was read is spelled by the tree that is written for it.** -/
theorem toTree {tree : Json} {query : Query} (h : SpellsQuery engine schema tree query) :
    SpellsQuery engine schema query.toTree query := by
  obtain @⟨root, options, _, _, id, filter, columns, order, transformations, -, -, -, -, -, hvalid,
    htransformations, hne, hshown, horder, hcondition⟩ := h
  obtain rfl := eq_map_of_forall₂ (Json.string ∘ Column.name) hshown SpellsColumn.written
  refine .intro ?rootNamed ?hasFilter rfl ?optionsNamed ?hasColumns hvalid ?transformations hne
    hshown ?order hcondition.toTree
  case rootNamed => cases transformations <;> simp [rootNames]
  case hasFilter => cases transformations <;> rfl
  case optionsNamed => cases order <;> simp [optionNames]
  case hasColumns =>
    rw [← List.map_map]
    rfl
  case transformations =>
    have hwritten := rel_map_of_rel htransformations SpellsTransformations.toTree
    cases transformations <;> exact hwritten
  case order =>
    have hwritten := rel_map_of_rel horder SpellsOrder.toTree
    cases order <;> exact hwritten

end SpellsQuery

/-- **Nothing in a tree is dropped.** The tree of an accepted query is the tree that is written for
the query, which is accepted as the same query; and all trees that are accepted as the same query
are the same value. -/
theorem validate_drops_nothing {tree : Json} {query : Query}
    (h : validate tree schema = .ok query) :
    tree.Alike Eq query.toTree ∧ validate query.toTree schema = .ok query ∧
      ∀ tree' query', validate tree' schema = .ok query' →
        (query = query' → tree.Alike Eq tree') ∧
        (query.same query' = true → tree.Alike (fun x y => x.eq y = true) tree') := by
  have hspells := validate_eq_ok_iff.mp h
  refine ⟨hspells.alike hspells.toTree query.alike_refl, validate_eq_ok_iff.mpr hspells.toTree, ?_⟩
  intro tree' query' h'
  have hspells' := validate_eq_ok_iff.mp h'
  constructor
  · rintro rfl
    exact hspells.alike hspells' query.alike_refl
  · intro hsame
    exact hspells.alike hspells' (Query.alike_of_same hsame)

/-- Two trees of one query: members are in another order, and a zero is written in another way. -/
theorem validate_drops_nothing_zeros :
    let tree : Json := .object [("WHERE", .object [("AND", .array [
        .object [("GT", .object [("s_avg", .integer 0)])],
        .object [("IS", .object [("s_dept", .string "*c")])]])]),
      ("OPTIONS", .object [("COLUMNS", .array [.string "s_year", .string "total"]),
        ("ORDER", .object [("dir", .string "UP"), ("keys", .array [.string "total"])])]),
      ("TRANSFORMATIONS", .object [("GROUP", .array [.string "s_year"]),
        ("APPLY", .array [.object [("total", .object [("COUNT", .string "s_dept")])]])])]
    let tree' : Json := .object [("TRANSFORMATIONS", .object [
        ("APPLY", .array [.object [("total", .object [("COUNT", .string "s_dept")])]]),
        ("GROUP", .array [.string "s_year"])]),
      ("OPTIONS", .object [
        ("ORDER", .object [("keys", .array [.string "total"]), ("dir", .string "UP")]),
        ("COLUMNS", .array [.string "s_year", .string "total"])]),
      ("WHERE", .object [("AND", .array [
        .object [("GT", .object [("s_avg", .real Binary64.zero.neg)])],
        .object [("IS", .object [("s_dept", .string "*c")])]])])]
    let query (operand : Binary64) : Query := ⟨"s", .and [.compare .greater ⟨"s", "avg"⟩ operand,
        .accepts ⟨"s", "dept"⟩ ⟨true, ['c'], false⟩],
      [.field ⟨"s", "year"⟩, .applied "total"], some (.multi .up ["total"]),
      some ⟨[⟨"s", "year"⟩], [⟨"total", .count, ⟨"s", "dept"⟩⟩]⟩⟩
    let schema := DatasetKind.sections.schema
    validate tree schema = .ok (query (.ofInt 0)) ∧
      validate tree' schema = .ok (query Binary64.zero.neg) ∧
      (query (.ofInt 0)).same (query Binary64.zero.neg) = true ∧
      tree.Alike Eq (query (.ofInt 0)).toTree ∧
      validate (query (.ofInt 0)).toTree schema = .ok (query (.ofInt 0)) ∧
      tree.Alike (fun x y => x.eq y = true) tree' := by
  intro tree tree' query schema
  have hread : validate tree schema = .ok (query (.ofInt 0)) := by rfl
  have hread' : validate tree' schema = .ok (query Binary64.zero.neg) := by rfl
  have hsame : (query (.ofInt 0)).same (query Binary64.zero.neg) = true := by decide +kernel
  obtain ⟨halike, hwritten, hothers⟩ := validate_drops_nothing hread
  exact ⟨hread, hread', hsame, halike, hwritten, (hothers tree' _ hread').2 hsame⟩

end Registrar
