import Registrar.Proofs.Query.Grouping
import Registrar.Proofs.Query.Row
import Registrar.Proofs.Query.Selection
import Registrar.Proofs.Query.Typing
import Registrar.Query.Execution

/-!
# Well-typed queries find what they look up

Running a well-typed query over records that conform to its schema meets no defect but those of
decimal arithmetic, and these come out of sums and averages only. Every step of an execution has a
lemma here that says so: filters, grouping, aggregates, projections.

The order needs none: sorting cannot fail.

## Main definitions

* `Defect.Arithmetic` — the defects of decimal arithmetic.

## Main results

* `ApplyRule.evaluate_outcome` — what an aggregate can come to.
* `execute_outcome` — what a well-typed query can come to.
* `execute_of_validate` — the same for a tree that was accepted, over records of one kind.
-/

namespace Registrar

variable {α : Type} [HasFields α] {schema : Schema}

/-! ### Filters -/

namespace Filter

theorem testAll_isOk {record : α} {branches : List Filter}
    (h : ∀ branch ∈ branches, ∃ holds, branch.test record = .ok holds) :
    ∃ holds, testAll record branches = .ok holds := by
  induction branches with
  | nil => exact ⟨true, rfl⟩
  | cons branch branches ih =>
    obtain ⟨⟨first, hfirst⟩, hothers⟩ := List.forall_mem_cons.mp h
    rw [testAll, hfirst]
    cases first with
    | true => exact ih hothers
    | false => exact ⟨false, rfl⟩

theorem testAny_isOk {record : α} {branches : List Filter}
    (h : ∀ branch ∈ branches, ∃ holds, branch.test record = .ok holds) :
    ∃ holds, testAny record branches = .ok holds := by
  induction branches with
  | nil => exact ⟨false, rfl⟩
  | cons branch branches ih =>
    obtain ⟨⟨first, hfirst⟩, hothers⟩ := List.forall_mem_cons.mp h
    obtain ⟨others, hothers⟩ := ih hothers
    exact ⟨first || others, by rw [testAny, hfirst, hothers]; rfl⟩

/-- A well-typed filter is true or false of a record, it does not fail. -/
theorem WellTyped.test_isOk {filter : Filter} (h : filter.WellTyped schema) {record : α}
    (hrecord : Conforms schema record) : ∃ holds, filter.test record = .ok holds := by
  induction h with
  | all => exact ⟨true, rfl⟩
  | not _ ih =>
    obtain ⟨holds, hholds⟩ := ih
    exact ⟨!holds, by rw [test, hholds]; rfl⟩
  | and _ ih =>
    rw [test]
    exact testAll_isOk ih
  | or _ ih =>
    rw [test]
    exact testAny_isOk ih
  | @compare op key operand hkey =>
    obtain ⟨value, hvalue, hkind⟩ := hrecord.field? hkey
    cases value with
    | text text => cases hkind _ rfl
    | number number =>
      exact ⟨op.holds number operand, by rw [test, numberAt, hvalue]; rfl⟩
  | @accepts key pattern hkey =>
    obtain ⟨value, hvalue, hkind⟩ := hrecord.field? hkey
    cases value with
    | number number => cases hkind _ rfl
    | text text => exact ⟨pattern.accepts text, by rw [test, textAt, hvalue]; rfl⟩

theorem mem_of_evaluate {filter : Filter} {records found : List α}
    (h : filter.evaluate records = .ok found) {record : α} (hrecord : record ∈ found) :
    record ∈ records := by
  obtain ⟨entries, -, rfl, -, hentries⟩ := entries_of_evaluate h
  obtain ⟨entry, hentry, rfl⟩ := List.mem_map.mp hrecord
  exact List.mem_of_getElem? ((hentries entry.1 entry.2).mp hentry).1

end Filter

/-! ### Aggregates -/

/-- The defects of decimal arithmetic. -/
inductive Defect.Arithmetic : Defect → Prop where
  | noDecimal (value : Binary64) : Arithmetic (.noDecimal value)
  | sumOverflow : Arithmetic .sumOverflow
  | averageOverflow : Arithmetic .averageOverflow

@[simp] theorem orDefect_eq_ok_iff {β : Type} {defect : Defect} {value : Option β} {b : β} :
    orDefect defect value = .ok b ↔ value = some b := by
  cases value <;> simp [orDefect]

@[simp] theorem orDefect_eq_error_iff {β : Type} {defect cause : Defect} {value : Option β} :
    orDefect defect value = .error cause ↔ value = none ∧ defect = cause := by
  cases value <;> simp [orDefect]

theorem lookupField_isOk {record : α} {wanted : Option FieldKind} {key : FieldKey}
    (hrecord : Conforms schema record) (hkey : key.Typed schema wanted) :
    ∃ value, lookupField key record = .ok value := by
  obtain ⟨value, hvalue, -⟩ := hrecord.field? hkey
  exact ⟨value, lookupField_eq_ok_iff.mpr hvalue⟩

theorem measureOf_eq_ok_iff {record : α} {key : FieldKey} {value : Binary64} :
    measureOf key record = .ok value ↔ field? record key.field = some (.number value) := by
  simp only [measureOf, bind_eq_ok_iff, lookupField_eq_ok_iff, orDefect_eq_ok_iff]
  constructor
  · rintro ⟨_ | _, hfield, hvalue⟩
    · exact hfield.trans (congrArg _ (congrArg _ (Option.some_inj.mp hvalue)))
    · cases hvalue
  · intro hfield
    exact ⟨_, hfield, rfl⟩

theorem measureOf_isOk {record : α} {key : FieldKey} (hrecord : Conforms schema record)
    (hkey : key.Typed schema (some .measure)) : ∃ value, measureOf key record = .ok value := by
  obtain ⟨value, hvalue, hkind⟩ := hrecord.field? hkey
  cases value with
  | text text => cases hkind _ rfl
  | number number =>
    exact ⟨number, measureOf_eq_ok_iff.mpr hvalue⟩

theorem extremum_isOk (pick : Binary64 → Binary64 → Binary64) {key : FieldKey} {records : List α}
    (hkey : key.Typed schema (some .measure))
    (hrecords : ∀ record ∈ records, Conforms schema record) (hne : records ≠ []) :
    ∃ value, extremum pick key records = .ok value := by
  rw [extremum]
  -- Every step ends in some number, so a list with a record does.
  refine exists_bind_eq_ok (P := fun best => ∃ value, best = some value)
    (exists_foldlM_eq_ok (fun best record hrecord => ?_) (.inr hne)) ?_
  · obtain ⟨value, hvalue⟩ := measureOf_isOk (hrecords record hrecord) hkey
    rw [hvalue]
    exact ⟨_, rfl, _, rfl⟩
  · rintro last ⟨value, rfl⟩
    exact ⟨value, rfl⟩

/-- A sum of numbers fails only by a number without a decimal or by an overflow. -/
theorem arithmetic_of_decimalSum {key : FieldKey} {records : List α} {cause : Defect}
    (hkey : key.Typed schema (some .measure))
    (hrecords : ∀ record ∈ records, Conforms schema record)
    (h : decimalSum key records = .error cause) : cause.Arithmetic := by
  obtain ⟨total, record, hrecord, hstep⟩ := exists_mem_of_foldlM_eq_error h
  obtain ⟨value, hvalue⟩ := measureOf_isOk (hrecords record hrecord) hkey
  simp only [hvalue, bind_eq_error_iff, decimalOf, orDefect_eq_error_iff, reduceCtorEq,
    Except.ok.injEq, false_or, exists_eq_left'] at hstep
  obtain ⟨-, rfl⟩ | ⟨decimal, -, -, rfl⟩ := hstep
  · exact .noDecimal value
  · exact .sumOverflow

theorem arithmetic_of_averageDecimal {key : FieldKey} {records : List α} {cause : Defect}
    (hkey : key.Typed schema (some .measure))
    (hrecords : ∀ record ∈ records, Conforms schema record) (hne : records ≠ [])
    (h : averageDecimal key records = .error cause) : cause.Arithmetic := by
  rw [averageDecimal, bind_eq_error_iff] at h
  obtain h | ⟨total, -, h⟩ := h
  · exact arithmetic_of_decimalSum hkey hrecords h
  · rw [if_neg (by simpa using hne)] at h
    simp only [bind_eq_error_iff, orDefect_eq_error_iff, pure_ne_error, and_false, exists_false,
      or_false] at h
    obtain ⟨-, rfl⟩ := h
    exact .averageOverflow

theorem distinctCount_isOk {wanted : Option FieldKind} {key : FieldKey} {records : List α}
    (hkey : key.Typed schema wanted) (hrecords : ∀ record ∈ records, Conforms schema record) :
    ∃ count, distinctCount key records = .ok count := by
  have hstep : ∀ (seen : DistinctValues), ∀ record ∈ records,
      ∃ next, (do let value ← lookupField key record; return seen.add value) = .ok next ∧ True := by
    intro seen record hrecord
    obtain ⟨value, hvalue⟩ := lookupField_isOk (hrecords record hrecord) hkey
    exact ⟨seen.add value, by rw [hvalue]; rfl, trivial⟩
  obtain ⟨seen, hseen, -⟩ := exists_foldlM_eq_ok hstep (.inl trivial)
  exact ⟨seen.count, map_eq_ok_iff.mpr ⟨seen, hseen, rfl⟩⟩

namespace ApplyRule

/-- Whether an aggregate computes with decimals. -/
def IsDecimal (rule : ApplyRule) : Prop :=
  rule.aggregate = .sum ∨ rule.aggregate = .avg

/-- **What an aggregate can come to**, over records that have its field: a value, or, if it is a sum
or an average, a defect of decimal arithmetic. -/
theorem evaluate_outcome {rule : ApplyRule} {records : List α}
    (hkey : rule.key.Typed schema rule.aggregate.wanted)
    (hrecords : ∀ record ∈ records, Conforms schema record) (hne : records ≠ []) :
    (∃ value, rule.evaluate records = .ok value) ∨
      ∃ cause, rule.evaluate records = .error cause ∧ rule.IsDecimal ∧ cause.Arithmetic := by
  obtain ⟨name, aggregate, key⟩ := rule
  cases aggregate with
  | max =>
    obtain ⟨value, hvalue⟩ := extremum_isOk Binary64.max hkey hrecords hne
    exact .inl ⟨.number value, map_eq_ok_iff.mpr ⟨value, hvalue, rfl⟩⟩
  | min =>
    obtain ⟨value, hvalue⟩ := extremum_isOk Binary64.min hkey hrecords hne
    exact .inl ⟨.number value, map_eq_ok_iff.mpr ⟨value, hvalue, rfl⟩⟩
  | sum =>
    cases htotal : sumDecimal key records with
    | ok total => exact .inl ⟨.number total.toBinary64, map_eq_ok_iff.mpr ⟨total, htotal, rfl⟩⟩
    | error cause =>
      refine .inr ⟨cause, map_eq_error_iff.mpr htotal, .inl rfl, ?_⟩
      simp only [sumDecimal, bind_eq_error_iff, pure_ne_error, and_false, exists_false,
        or_false] at htotal
      exact arithmetic_of_decimalSum hkey hrecords htotal
  | avg =>
    cases haverage : averageDecimal key records with
    | ok average =>
      exact .inl ⟨.number average.toBinary64, map_eq_ok_iff.mpr ⟨average, haverage, rfl⟩⟩
    | error cause =>
      refine .inr ⟨cause, map_eq_error_iff.mpr haverage, .inr rfl, ?_⟩
      exact arithmetic_of_averageDecimal hkey hrecords hne haverage
  | count =>
    obtain ⟨count, hcount⟩ := distinctCount_isOk hkey hrecords
    exact .inl ⟨.number (.ofNat count), map_eq_ok_iff.mpr ⟨count, hcount, rfl⟩⟩

end ApplyRule

/-! ### Rows -/

theorem aggregateRow_outcome {transformations : Transformations} {group : Group α}
    (htyped : transformations.WellTyped schema)
    (hrecords : ∀ record ∈ group.members, Conforms schema record) (hne : group.members ≠ []) :
    (∃ row, aggregateRow transformations group = .ok row) ∨
      ∃ cause, aggregateRow transformations group = .error cause ∧ cause.Arithmetic ∧
        ∃ rule ∈ transformations.apply, rule.IsDecimal ∧
          rule.evaluate group.members = .error cause := by
  cases hrow : aggregateRow transformations group with
  | ok row => exact .inl ⟨row, rfl⟩
  | error cause =>
    simp only [aggregateRow, bind_eq_error_iff, pure_ne_error, and_false, exists_false,
      or_false] at hrow
    obtain ⟨rule, hrule, hcell⟩ := exists_mem_of_mapM_eq_error hrow
    simp only [bind_eq_error_iff, pure_ne_error, and_false, exists_false, or_false] at hcell
    obtain ⟨value, hvalue⟩ | ⟨_, hfault, hdecimal, harithmetic⟩ :=
      ApplyRule.evaluate_outcome (htyped.apply rule hrule) hrecords hne
    · rw [hvalue] at hcell
      cases hcell
    · rw [hfault] at hcell
      cases hcell
      exact .inr ⟨cause, rfl, harithmetic, rule, hrule, hdecimal, hfault⟩

/-- The row of a group has a cell for every group key and every aggregate. -/
theorem exists_get?_of_aggregateRow {transformations : Transformations} {group : Group α}
    {row : Row} (hlength : group.key.length = transformations.group.length)
    (h : aggregateRow transformations group = .ok row) {name : String}
    (hname : name ∈ transformations.cellNames) : ∃ value, row.get? name = some value := by
  simp only [aggregateRow, bind_eq_ok_iff, pure_eq_ok_iff] at h
  obtain ⟨cells, hcells, rfl⟩ := h
  refine Row.exists_get?_insertAll ?_
  obtain hname | hname := List.mem_append.mp hname
  · refine .inr (Row.exists_get?_insertAll (.inl ?_))
    rwa [List.map_fst_zip (by simp [hlength])]
  · obtain ⟨rule, hrule, rfl⟩ := List.mem_map.mp hname
    obtain ⟨cell, hcell, hrule⟩ := exists_of_mem_forall₂ (mapM_eq_ok_iff.mp hcells).flip hrule
    simp only [bind_eq_ok_iff, pure_eq_ok_iff] at hrule
    obtain ⟨value, -, rfl⟩ := hrule
    exact .inl (List.mem_map_of_mem hcell)

theorem Row.project_isOk {row : Row} {columns : List Column}
    (h : ∀ column ∈ columns, ∃ value, row.get? column.name = some value) :
    ∃ projected, row.project columns = .ok projected := by
  have hcells : ∃ cells, columns.mapM (fun column => (orDefect (.noCell column.name)
      (row.get? column.name)).map fun value => (column.name, value)) = .ok cells := by
    rw [mapM_isOk_iff]
    intro column hcolumn
    obtain ⟨value, hvalue⟩ := h column hcolumn
    exact ⟨(column.name, value), map_eq_ok_iff.mpr ⟨value, orDefect_eq_ok_iff.mpr hvalue, rfl⟩⟩
  obtain ⟨cells, hcells⟩ := hcells
  exact ⟨_, bind_eq_ok_iff.mpr ⟨cells, hcells, rfl⟩⟩

theorem recordRow_isOk {columns : List Column} {record : α}
    (hcolumns : ∀ column ∈ columns, column.WellTyped schema none)
    (hrecord : Conforms schema record) : ∃ row, recordRow columns record = .ok row := by
  have hcells : ∃ cells, columns.mapM (recordCell record) = .ok cells := by
    rw [mapM_isOk_iff]
    intro column hcolumn
    cases column with
    | applied name => exact absurd (hcolumns _ hcolumn) id
    | field key =>
      obtain ⟨value, hvalue, -⟩ := hrecord.field? (hcolumns _ hcolumn)
      exact ⟨_, map_eq_ok_iff.mpr ⟨value, orDefect_eq_ok_iff.mpr hvalue, rfl⟩⟩
  obtain ⟨cells, hcells⟩ := hcells
  exact ⟨_, bind_eq_ok_iff.mpr ⟨cells, hcells, rfl⟩⟩

/-! ### Queries -/

/-- A sum or average of a query over one of its groups met a defect of decimal arithmetic. -/
def DecimalDefect (query : Query) (records : List α) (cause : Defect) : Prop :=
  cause.Arithmetic ∧ ∃ transformations matched groups,
    query.transformations = some transformations ∧ query.filter.evaluate records = .ok matched ∧
      groupRecords transformations.group matched = .ok groups ∧
      ∃ group ∈ groups, ∃ rule ∈ transformations.apply, rule.IsDecimal ∧
        rule.evaluate group.members = .error cause

theorem checkLimit_outcome (rows limit : Nat) :
    checkLimit rows limit = .ok () ∨
      limit < rows ∧ checkLimit rows limit = .error (.tooLarge rows limit) := by
  rw [checkLimit]
  split
  · next h => exact .inr ⟨h, rfl⟩
  · exact .inl rfl

@[simp] theorem liftDefect_ok {β : Type} {b : β} : liftDefect (.ok b : Except Defect β) = .ok b :=
  rfl

theorem groupRows_outcome {transformations : Transformations} {columns : List Column}
    {matched : List α} (limit : Nat) (htyped : transformations.WellTyped schema)
    (hcolumns : ∀ column ∈ columns, column.WellTyped schema (some transformations))
    (hmatched : ∀ record ∈ matched, Conforms schema record) :
    (∃ rows, groupRows transformations columns limit matched = .ok rows) ∨
      (∃ rows, limit < rows ∧
        groupRows transformations columns limit matched = .error (.tooLarge rows limit)) ∨
      ∃ cause, groupRows transformations columns limit matched = .error (.defect cause) ∧
        cause.Arithmetic ∧ ∃ groups, groupRecords transformations.group matched = .ok groups ∧
          ∃ group ∈ groups, ∃ rule ∈ transformations.apply, rule.IsDecimal ∧
            rule.evaluate group.members = .error cause := by
  obtain ⟨groups, hgroups⟩ := groupRecords_isOk fun record hrecord key hkey => by
    obtain ⟨value, hvalue, -⟩ := (hmatched record hrecord).field? (htyped.group key hkey)
    exact ⟨value, hvalue⟩
  have hmembers : ∀ group ∈ groups, ∀ record ∈ group.members, Conforms schema record :=
    fun group hgroup record hrecord =>
      hmatched record ((mem_groupRecords hgroups hgroup).2.1 record hrecord)
  simp only [groupRows, hgroups, liftDefect_ok, bind, Except.bind]
  obtain hlimit | ⟨hlarge, hlimit⟩ := checkLimit_outcome groups.length limit
  · rw [hlimit]
    cases hrows : groups.mapM (aggregateRow transformations) with
    | error cause =>
      -- The row that failed is that of some group.
      obtain ⟨group, hgroup, hrow⟩ := exists_mem_of_mapM_eq_error hrows
      obtain ⟨row, hok⟩ | ⟨_, hfault, harithmetic, hrule⟩ :=
        aggregateRow_outcome htyped (hmembers group hgroup) (mem_groupRecords hgroups hgroup).1
      · rw [hok] at hrow
        cases hrow
      · rw [hfault] at hrow
        cases hrow
        exact .inr (.inr ⟨cause, rfl, harithmetic, groups, rfl, group, hgroup, hrule⟩)
    | ok rows =>
      obtain ⟨projected, hprojected⟩ := mapM_isOk_iff.mpr fun row hrow => by
        obtain ⟨group, hgroup, hrow⟩ := exists_of_mem_forall₂ (mapM_eq_ok_iff.mp hrows) hrow
        exact Row.project_isOk fun column hcolumn =>
          exists_get?_of_aggregateRow (mem_groupRecords hgroups hgroup).2.2 hrow
            (hcolumns column hcolumn)
      exact .inl ⟨projected, by simp only [liftDefect_ok, hprojected]⟩
  · rw [hlimit]
    exact .inr (.inl ⟨groups.length, hlarge, rfl⟩)

theorem recordRows_outcome {columns : List Column} {matched : List α} (limit : Nat)
    (hcolumns : ∀ column ∈ columns, column.WellTyped schema none)
    (hmatched : ∀ record ∈ matched, Conforms schema record) :
    (∃ rows, recordRows columns limit matched = .ok rows) ∨
      ∃ rows, limit < rows ∧
        recordRows columns limit matched = .error (.tooLarge rows limit) := by
  simp only [recordRows, bind, Except.bind]
  obtain hlimit | ⟨hlarge, hlimit⟩ := checkLimit_outcome matched.length limit
  · obtain ⟨rows, hrows⟩ := mapM_isOk_iff.mpr fun record hrecord =>
      recordRow_isOk hcolumns (hmatched record hrecord)
    exact .inl ⟨rows, by rw [hlimit, hrows]; rfl⟩
  · exact .inr ⟨matched.length, hlarge, by rw [hlimit]⟩

/-- **What a well-typed query can come to**, over records that conform to its schema: a result, too
many rows, or a defect of decimal arithmetic. -/
theorem execute_outcome {query : Query} {records : List α} (limit : Nat)
    (htyped : query.WellTyped schema) (hrecords : ∀ record ∈ records, Conforms schema record) :
    (∃ output, execute query records limit = .ok output) ∨
      (∃ rows, limit < rows ∧ execute query records limit = .error (.tooLarge rows limit)) ∨
      ∃ cause, execute query records limit = .error (.defect cause) ∧
        DecimalDefect query records cause := by
  obtain ⟨matched, hmatched⟩ := Filter.evaluate_isOk_iff.mpr fun record hrecord =>
    htyped.filter.test_isOk (hrecords record hrecord)
  have hconform : ∀ record ∈ matched, Conforms schema record := fun record hrecord =>
    hrecords record (Filter.mem_of_evaluate hmatched hrecord)
  have hcolumns := htyped.columns
  simp only [execute, hmatched, liftDefect_ok, bind, Except.bind]
  cases htransformations : query.transformations with
  | none =>
    rw [htransformations] at hcolumns
    obtain ⟨rows, hrows⟩ | ⟨rows, hlarge, hrows⟩ := recordRows_outcome limit hcolumns hconform
    · exact .inl ⟨_, by simp only [hrows]; rfl⟩
    · exact .inr (.inl ⟨rows, hlarge, by simp only [hrows]⟩)
  | some transformations =>
    rw [htransformations] at hcolumns
    have htyped' := htyped.transformations _ htransformations
    obtain ⟨rows, hrows⟩ | ⟨rows, hlarge, hrows⟩ | ⟨cause, hcause, harithmetic, groups, hgroups,
      hrule⟩ := groupRows_outcome limit htyped' hcolumns hconform
    · exact .inl ⟨_, by simp only [hrows]; rfl⟩
    · exact .inr (.inl ⟨rows, hlarge, by simp only [hrows]⟩)
    · exact .inr (.inr ⟨cause, by simp only [hcause], harithmetic, transformations, matched, groups,
        htransformations, hmatched, hgroups, hrule⟩)

/-- **Accepted queries find what they look up.** Over records of the kind whose schema it was
checked against, a query comes to a result, to too many rows, or to a defect of decimal arithmetic
in one of its sums or averages. Without these it meets no defect at all. -/
theorem execute_of_validate {tree : Json} {kind : DatasetKind} {query : Query}
    {records : List Record} (limit : Nat) (hquery : validate tree kind.schema = .ok query)
    (hrecords : ∀ record ∈ records, record.kind = kind) :
    ((∃ output, execute query records limit = .ok output) ∨
      (∃ rows, limit < rows ∧ execute query records limit = .error (.tooLarge rows limit)) ∨
      ∃ cause, execute query records limit = .error (.defect cause) ∧
        DecimalDefect query records cause) ∧
    ((∀ transformations ∈ query.transformations, ∀ rule ∈ transformations.apply,
        ¬rule.IsDecimal) →
      ∀ cause, execute query records limit ≠ .error (.defect cause)) := by
  have houtcome := execute_outcome limit (validate_eq_ok_iff.mp hquery).wellTyped
    fun record hrecord => hrecords record hrecord ▸ record.conforms
  refine ⟨houtcome, fun hplain cause hcause => ?_⟩
  obtain ⟨output, h⟩ | ⟨rows, -, h⟩ | ⟨cause', h, -, transformations, _, _, htransformations, -, -,
    group, -, rule, hrule, hdecimal, -⟩ := houtcome
  · rw [h] at hcause
    cases hcause
  · rw [h] at hcause
    cases hcause
  · exact hplain transformations htransformations rule hrule hdecimal

/-- A sum over a group of two sections, of which one has no department. -/
theorem execute_of_validate_sum :
    let tree : Json := .object [("WHERE", .object [("NOT", .object [("IS", .object
        [("s_dept", .string "x*")])])]),
      ("OPTIONS", .object [("COLUMNS", .array [.string "s_year", .string "total"]),
        ("ORDER", .string "total")]),
      ("TRANSFORMATIONS", .object [("GROUP", .array [.string "s_year"]),
        ("APPLY", .array [.object [("total", .object [("SUM", .string "s_avg")])]])])]
    let records : List Record := [.ofSection ⟨"1", "310", "t", "i", "cpsc", .zero, .zero, .zero,
      .zero, .zero⟩, .ofSection ⟨"2", "310", "t", "i", "", .zero, .zero, .zero, .zero, .zero⟩]
    let query : Query := ⟨"s", .not (.accepts ⟨"s", "dept"⟩ ⟨false, ['x'], true⟩),
      [.field ⟨"s", "year"⟩, .applied "total"], some (.single "total"),
      some ⟨[⟨"s", "year"⟩], [⟨"total", .sum, ⟨"s", "avg"⟩⟩]⟩⟩
    validate tree DatasetKind.sections.schema = .ok query ∧
      ((∃ output, execute query records 1 = .ok output) ∨
        (∃ rows, 1 < rows ∧ execute query records 1 = .error (.tooLarge rows 1)) ∨
        ∃ cause, execute query records 1 = .error (.defect cause) ∧
          DecimalDefect query records cause) := by
  intro tree records query
  have hquery : validate tree DatasetKind.sections.schema = .ok query := by rfl
  have hrecords : ∀ record ∈ records, record.kind = .sections := by
    simp [records, Record.kind]
  exact ⟨hquery, (execute_of_validate 1 hquery hrecords).1⟩

end Registrar
