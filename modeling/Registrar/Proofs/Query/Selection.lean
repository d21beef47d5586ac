import Mathlib.Data.List.Nodup
import Registrar.Dataset.Record
import Registrar.Proofs.Outcome
import Registrar.Proofs.Query.Distinct
import Registrar.Query.Selection

/-!
# Selection, record by record

`Filter.select` works on whole lists: a negation is a difference of lists, a conjunction hands a
shorter and shorter list from branch to branch, a disjunction merges lists. Here is what all this
comes to for one record.

`Filter.test` is the truth of a filter for a single record. It can fail, because a record can lack
a field, and it fails under a conjunction only if the branches before the failing one are true.

## Why lists of any kind

The induction goes through a list that has been narrowed already, so nothing may be asked of it but
that its positions differ. `Selects` is what is left to say about such a list, and every kind of
filter keeps it.

## Main definitions

* `Filter.test` — the truth of a filter for one record.
* `Selects` — a result is the selection of a test.

## Main results

* `Filter.select_selects` — filters select by their truth, from any list.
* `Filter.evaluate_iff_test` — the records that match are those the filter is true of.
-/

namespace Registrar

variable {α : Type}

/-! ### Selections of a test -/

/-- A result is the selection of a test from a list of entries: it is a failure only if the test
fails for some entry, and else no test fails and the entries kept are those that pass. -/
def Selects (test : α → Except Defect Bool) (entries : List (α × Nat)) :
    Except Defect (List (α × Nat)) → Prop
  | .error _ => ∃ entry ∈ entries, ∃ defect, test entry.1 = .error defect
  | .ok kept => (∀ entry ∈ entries, ∃ holds, test entry.1 = .ok holds) ∧
      ∀ entry, entry ∈ kept ↔ entry ∈ entries ∧ test entry.1 = .ok true

/-- Positions tell entries apart. -/
def Positioned (entries : List (α × Nat)) : Prop :=
  (entries.map Prod.snd).Nodup

theorem Positioned.eq {entries : List (α × Nat)} (h : Positioned entries) {a b : α × Nat}
    (ha : a ∈ entries) (hb : b ∈ entries) (hab : a.2 = b.2) : a = b :=
  List.inj_on_of_nodup_map h ha hb hab

theorem Positioned.sublist {entries kept : List (α × Nat)} (h : Positioned entries)
    (hk : kept.Sublist entries) : Positioned kept :=
  List.Nodup.sublist (hk.map Prod.snd) h

/-! ### The parts of a selection -/

/-- Keeping the entries that pass a test is the selection of that test. -/
theorem retain_selects (test : α → Except Defect Bool) (entries : List (α × Nat)) :
    Selects test entries (retain test entries) := by
  induction entries with
  | nil => simp [retain, Selects]
  | cons entry entries ih =>
    rw [retain]
    cases hentry : test entry.1 with
    | error defect => exact ⟨entry, List.mem_cons_self, defect, hentry⟩
    | ok holds =>
      cases hrest : retain test entries with
      | error defect =>
        rw [hrest] at ih
        obtain ⟨other, hmem, hother⟩ := ih
        exact ⟨other, List.mem_cons_of_mem entry hmem, hother⟩
      | ok kept =>
        rw [hrest] at ih
        refine ⟨List.forall_mem_cons.mpr ⟨⟨holds, hentry⟩, ih.1⟩, fun other => ?_⟩
        have hkept := ih.2 other
        cases holds with
        | true =>
          change other ∈ entry :: kept ↔ _
          rw [List.mem_cons, List.mem_cons, hkept]
          constructor
          · rintro (rfl | ⟨hmem, htrue⟩)
            · exact ⟨.inl rfl, hentry⟩
            · exact ⟨.inr hmem, htrue⟩
          · rintro ⟨rfl | hmem, htrue⟩
            · exact .inl rfl
            · exact .inr ⟨hmem, htrue⟩
        | false =>
          change other ∈ kept ↔ _
          rw [List.mem_cons, hkept]
          constructor
          · rintro ⟨hmem, htrue⟩
            exact ⟨.inr hmem, htrue⟩
          · rintro ⟨rfl | hmem, htrue⟩
            · rw [hentry] at htrue
              cases htrue
            · exact ⟨hmem, htrue⟩

theorem mem_without {entries excluded : List (α × Nat)} (h : Positioned entries)
    (hsub : ∀ entry ∈ excluded, entry ∈ entries) {entry : α × Nat} :
    entry ∈ without excluded entries ↔ entry ∈ entries ∧ entry ∉ excluded := by
  rw [without, List.mem_filter]
  refine and_congr_right fun hmem => ?_
  rw [Bool.not_eq_true', ← Bool.not_eq_true, List.contains_iff_mem, List.mem_map, not_iff_not]
  constructor
  · rintro ⟨other, hother, hpos⟩
    rwa [← h.eq (hsub other hother) hmem hpos]
  · intro hentry
    exact ⟨entry, hentry, rfl⟩

theorem mem_firstsBy_position {entries found : List (α × Nat)} (h : Positioned entries)
    (hsub : ∀ entry ∈ found, entry ∈ entries) {entry : α × Nat} :
    entry ∈ firstsBy Prod.snd [] found ↔ entry ∈ found := by
  refine ⟨fun hentry => (firstsBy_sublist Prod.snd [] found).subset hentry, fun hentry => ?_⟩
  have hpos : entry.2 ∈ (firstsBy Prod.snd [] found).map Prod.snd :=
    mem_map_firstsBy.mpr ⟨List.mem_map_of_mem hentry, List.not_mem_nil⟩
  obtain ⟨other, hother, heq⟩ := List.mem_map.mp hpos
  have hfound : other ∈ found := (firstsBy_sublist Prod.snd [] found).subset hother
  rwa [← h.eq (hsub other hfound) (hsub entry hentry) heq]

/-! ### Selections put together

One lemma for each kind of filter with parts. A negation selects by the negated test, a conjunction
by the test that goes on as long as it is true, a disjunction by the test that always goes on. -/

theorem Selects.not {test : α → Except Defect Bool} {entries : List (α × Nat)}
    {result : Except Defect (List (α × Nat))} (hpos : Positioned entries)
    (h : Selects test entries result) :
    Selects (fun record => (test record).map fun holds => !holds) entries
      (result.map fun excluded => without excluded entries) := by
  cases result with
  | error defect =>
    obtain ⟨entry, hmem, cause, hcause⟩ := h
    exact ⟨entry, hmem, cause, by simp only [hcause]; rfl⟩
  | ok excluded =>
    obtain ⟨htotal, hmem⟩ := h
    refine ⟨fun entry hentry => ?_, fun entry => ?_⟩
    · obtain ⟨holds, hholds⟩ := htotal entry hentry
      exact ⟨!holds, by simp only [hholds]; rfl⟩
    · rw [mem_without hpos fun other hother => ((hmem other).mp hother).1]
      refine and_congr_right fun hentry => ?_
      obtain ⟨holds, hholds⟩ := htotal entry hentry
      simp only [hmem, hholds]
      cases holds <;> simp [hentry, Except.map]

/-- A first branch and the selection, by the other branches, of what it leaves. -/
theorem Selects.and {first others : α → Except Defect Bool} {entries : List (α × Nat)}
    {narrowed : List (α × Nat)} {result : Except Defect (List (α × Nat))}
    (hfirst : Selects first entries (.ok narrowed)) (hothers : Selects others narrowed result) :
    Selects (fun record => do
      let holds ← first record
      if holds then others record else return false) entries result := by
  obtain ⟨htotal, hmem⟩ := hfirst
  cases result with
  | error defect =>
    obtain ⟨entry, hentry, cause, hcause⟩ := hothers
    obtain ⟨hin, htrue⟩ := (hmem entry).mp hentry
    exact ⟨entry, hin, cause, by simp only [htrue]; exact hcause⟩
  | ok kept =>
    obtain ⟨htotal', hmem'⟩ := hothers
    refine ⟨fun entry hentry => ?_, fun entry => ?_⟩
    · obtain ⟨holds, hholds⟩ := htotal entry hentry
      cases holds with
      | false => exact ⟨false, by simp only [hholds]; rfl⟩
      | true =>
        obtain ⟨holds', hholds'⟩ := htotal' entry ((hmem entry).mpr ⟨hentry, hholds⟩)
        exact ⟨holds', by simp only [hholds]; exact hholds'⟩
    · rw [hmem', hmem, and_assoc]
      refine and_congr_right fun hentry => ?_
      obtain ⟨holds, hholds⟩ := htotal entry hentry
      simp only [hholds]
      cases holds <;> simp [bind, Except.bind]

/-- A failure of the first branch is a failure of the conjunction, and of the disjunction, whatever
comes after it. -/
theorem Selects.error_bind {first : α → Except Defect Bool} {entries : List (α × Nat)}
    {defect : Defect} (h : Selects first entries (.error defect))
    (rest : α → Bool → Except Defect Bool) :
    Selects (fun record => first record >>= rest record) entries (.error defect) := by
  obtain ⟨entry, hentry, cause, hcause⟩ := h
  exact ⟨entry, hentry, cause, by simp only [hcause]; rfl⟩

/-- What a first branch and the other branches select from the same list. -/
theorem Selects.or {first others : α → Except Defect Bool} {entries found : List (α × Nat)}
    {result : Except Defect (List (α × Nat))} (hfirst : Selects first entries (.ok found))
    (hothers : Selects others entries result) :
    Selects (fun record => do
      let holds ← first record
      let holds' ← others record
      return holds || holds') entries (result.map fun rest => found ++ rest) := by
  obtain ⟨htotal, hmem⟩ := hfirst
  cases result with
  | error defect =>
    obtain ⟨entry, hentry, cause, hcause⟩ := hothers
    obtain ⟨holds, hholds⟩ := htotal entry hentry
    exact ⟨entry, hentry, cause, by simp only [hholds, hcause]; rfl⟩
  | ok rest =>
    obtain ⟨htotal', hmem'⟩ := hothers
    refine ⟨fun entry hentry => ?_, fun entry => ?_⟩
    · obtain ⟨holds, hholds⟩ := htotal entry hentry
      obtain ⟨holds', hholds'⟩ := htotal' entry hentry
      exact ⟨holds || holds', by simp only [hholds, hholds']; rfl⟩
    · rw [List.mem_append, hmem, hmem', ← and_or_left]
      refine and_congr_right fun hentry => ?_
      obtain ⟨holds, hholds⟩ := htotal entry hentry
      obtain ⟨holds', hholds'⟩ := htotal' entry hentry
      simp only [hholds, hholds']
      cases holds <;> cases holds' <;> simp [bind, Except.bind, pure, Except.pure]

theorem sublist_of_retain {test : α → Except Defect Bool} {entries kept : List (α × Nat)}
    (h : retain test entries = .ok kept) : kept.Sublist entries := by
  induction entries generalizing kept with
  | nil => cases h; exact List.Sublist.refl []
  | cons entry entries ih =>
    rw [retain] at h
    simp only [bind_eq_ok_iff, pure_eq_ok_iff] at h
    obtain ⟨keep, _, rest, hrest, rfl⟩ := h
    split
    · exact (ih hrest).cons_cons entry
    · exact (ih hrest).cons entry

theorem positioned_zipIdx (records : List α) : Positioned records.zipIdx := by
  rw [Positioned, List.zipIdx_map_snd]
  exact List.nodup_range'

variable [HasFields α]

namespace Filter

/-! ### The truth of a filter -/

mutual

/-- Whether a filter is true of a record; it fails if it comes upon a field that is not there. -/
def test (record : α) : Filter → Except Defect Bool
  | all => .ok true
  | not inner => (test record inner).map fun holds => !holds
  | and branches => testAll record branches
  | or branches => testAny record branches
  | compare op key operand => (numberAt key record).map fun actual => op.holds actual operand
  | accepts key pattern => (textAt key record).map pattern.accepts

/-- Whether all branches are true, from left to right; the first false one ends the test. -/
def testAll (record : α) : List Filter → Except Defect Bool
  | [] => .ok true
  | branch :: branches => do
    let holds ← test record branch
    if holds then testAll record branches else return false

/-- Whether some branch is true. Every branch is tested, the true one does not end the test. -/
def testAny (record : α) : List Filter → Except Defect Bool
  | [] => .ok false
  | branch :: branches => do
    let holds ← test record branch
    let others ← testAny record branches
    return holds || others

end

/-! ### Filters select by their truth -/

mutual

/-- Only a disjunction changes the order, and it keeps positions apart itself. -/
theorem select_positioned (filter : Filter) {entries kept : List (α × Nat)}
    (h : Positioned entries) (hkept : filter.select entries = .ok kept) : Positioned kept := by
  cases filter with
  | all =>
    rw [select] at hkept
    cases hkept
    exact h
  | not inner =>
    rw [select] at hkept
    simp only [bind_eq_ok_iff, pure_eq_ok_iff] at hkept
    obtain ⟨excluded, -, rfl⟩ := hkept
    exact h.sublist List.filter_sublist
  | and branches =>
    rw [select] at hkept
    exact selectAll_positioned branches h hkept
  | or branches =>
    rw [select] at hkept
    simp only [bind_eq_ok_iff, pure_eq_ok_iff] at hkept
    obtain ⟨found, -, rfl⟩ := hkept
    exact nodup_map_firstsBy Prod.snd [] found
  | compare op key operand =>
    rw [select] at hkept
    exact h.sublist (sublist_of_retain hkept)
  | accepts key pattern =>
    rw [select] at hkept
    exact h.sublist (sublist_of_retain hkept)

theorem selectAll_positioned (branches : List Filter) {entries kept : List (α × Nat)}
    (h : Positioned entries) (hkept : selectAll branches entries = .ok kept) :
    Positioned kept := by
  cases branches with
  | nil =>
    rw [selectAll] at hkept
    cases hkept
    exact h
  | cons branch branches =>
    rw [selectAll, bind_eq_ok_iff] at hkept
    obtain ⟨narrowed, hnarrowed, hkept⟩ := hkept
    exact selectAll_positioned branches (select_positioned branch h hnarrowed) hkept

end

mutual

/-- **Filters select by their truth.** -/
theorem select_selects (filter : Filter) {entries : List (α × Nat)} (h : Positioned entries) :
    Selects (fun record => filter.test record) entries (filter.select entries) := by
  cases filter with
  | all =>
    simp only [test, select]
    exact ⟨fun _ _ => ⟨true, rfl⟩, fun _ => by simp⟩
  | not inner =>
    simp only [test, select]
    exact (select_selects inner h).not h
  | and branches =>
    simp only [test, select]
    exact selectAll_selects branches h
  | or branches =>
    have hfound := selectEach_selects branches h
    simp only [test, select]
    cases hresult : selectEach branches entries with
    | error defect => rwa [hresult] at hfound
    | ok found =>
      rw [hresult] at hfound
      refine ⟨hfound.1, fun entry => ?_⟩
      rw [mem_firstsBy_position h fun other hother => ((hfound.2 other).mp hother).1]
      exact hfound.2 entry
  | compare op key operand =>
    simp only [test, select]
    exact retain_selects _ entries
  | accepts key pattern =>
    simp only [test, select]
    exact retain_selects _ entries

theorem selectAll_selects (branches : List Filter) {entries : List (α × Nat)}
    (h : Positioned entries) :
    Selects (fun record => testAll record branches) entries (selectAll branches entries) := by
  cases branches with
  | nil =>
    simp only [testAll, selectAll]
    exact ⟨fun _ _ => ⟨true, rfl⟩, fun _ => by simp⟩
  | cons branch branches =>
    have hfirst := select_selects branch h
    simp only [testAll, selectAll]
    cases hresult : branch.select entries with
    | error defect =>
      rw [hresult] at hfirst
      exact hfirst.error_bind _
    | ok narrowed =>
      rw [hresult] at hfirst
      exact hfirst.and (selectAll_selects branches (select_positioned branch h hresult))

theorem selectEach_selects (branches : List Filter) {entries : List (α × Nat)}
    (h : Positioned entries) :
    Selects (fun record => testAny record branches) entries (selectEach branches entries) := by
  cases branches with
  | nil =>
    simp only [testAny, selectEach]
    exact ⟨fun _ _ => ⟨false, rfl⟩, fun _ => by simp⟩
  | cons branch branches =>
    have hfirst := select_selects branch h
    simp only [testAny, selectEach]
    cases hresult : branch.select entries with
    | error defect =>
      rw [hresult] at hfirst
      exact hfirst.error_bind _
    | ok found =>
      rw [hresult] at hfirst
      exact hfirst.or (selectEach_selects branches h)

end

/-! ### Evaluation -/

theorem evaluate_selects (filter : Filter) (records : List α) :
    Selects (fun record => filter.test record) records.zipIdx (filter.select records.zipIdx) :=
  select_selects filter (positioned_zipIdx records)

/-- An evaluation succeeds exactly if the filter does not fail for any record. -/
theorem evaluate_isOk_iff {filter : Filter} {records : List α} :
    (∃ found, filter.evaluate records = .ok found) ↔
      ∀ record ∈ records, ∃ holds, filter.test record = .ok holds := by
  have hselects := filter.evaluate_selects records
  rw [evaluate]
  cases hresult : filter.select records.zipIdx with
  | error defect =>
    rw [hresult] at hselects
    obtain ⟨entry, hentry, cause, hcause⟩ := hselects
    constructor
    · rintro ⟨found, hfound⟩
      cases hfound
    · intro htotal
      have hmem : entry.1 ∈ records := by
        rw [← List.zipIdx_map_fst 0 records]
        exact List.mem_map_of_mem hentry
      obtain ⟨holds, hholds⟩ := htotal entry.1 hmem
      cases hcause.symm.trans hholds
  | ok entries =>
    rw [hresult] at hselects
    refine ⟨fun _ record hrecord => ?_, fun _ => ⟨_, rfl⟩⟩
    obtain ⟨position, hposition⟩ := List.mem_iff_getElem?.mp hrecord
    exact hselects.1 (record, position) (List.mk_mem_zipIdx_iff_getElem?.mpr hposition)

/-- What an evaluation returns: the records at the positions where the filter is true. -/
theorem entries_of_evaluate {filter : Filter} {records found : List α}
    (h : filter.evaluate records = .ok found) :
    ∃ entries, filter.select records.zipIdx = .ok entries ∧ found = entries.map Prod.fst ∧
      Positioned entries ∧ ∀ record position, (record, position) ∈ entries ↔
        records[position]? = some record ∧ filter.test record = .ok true := by
  obtain ⟨entries, hentries, rfl⟩ := map_eq_ok_iff.mp h
  have hselects := filter.evaluate_selects records
  rw [hentries] at hselects
  refine ⟨entries, hentries, rfl, select_positioned filter (positioned_zipIdx records) hentries,
    fun record position => ?_⟩
  rw [hselects.2, List.mk_mem_zipIdx_iff_getElem?]

/-- **Evaluation is pointwise.** It fails exactly if the filter fails for some record. Otherwise
every position whose record the filter is true of comes out once, and no other position. -/
theorem evaluate_iff_test (filter : Filter) (records : List α) :
    ((∃ defect, filter.evaluate records = .error defect) ↔
      ∃ record ∈ records, ∃ defect, filter.test record = .error defect) ∧
    ∀ found, filter.evaluate records = .ok found →
      ∃ entries, filter.select records.zipIdx = .ok entries ∧ found = entries.map Prod.fst ∧
        (entries.map Prod.snd).Nodup ∧
        ∀ record position, (record, position) ∈ entries ↔
          records[position]? = some record ∧ filter.test record = .ok true := by
  refine ⟨?_, fun found hfound => entries_of_evaluate hfound⟩
  rw [exists_error_iff, evaluate_isOk_iff]
  push Not
  refine exists_congr fun record => and_congr_right fun _ => ?_
  rw [exists_error_iff]
  push Not
  rfl

/-- Two equal records, and a filter that is true of both and asks for more than one field. -/
theorem evaluate_iff_test_twins :
    let twin : Attributes := ⟨[("name", .text "x"), ("size", .number .zero)]⟩
    let filter : Filter := .or [.compare .equal ⟨"d", "size"⟩ .zero,
      .not (.accepts ⟨"d", "name"⟩ ⟨false, ['y'], true⟩)]
    filter.evaluate [twin, twin] = .ok [twin, twin] ∧
      ∃ entries, filter.select [twin, twin].zipIdx = .ok entries ∧
        [twin, twin] = entries.map Prod.fst ∧ (entries.map Prod.snd).Nodup ∧
        ∀ record position, (record, position) ∈ entries ↔
          [twin, twin][position]? = some record ∧ filter.test record = .ok true := by
  intro twin filter
  have hfound : filter.evaluate [twin, twin] = .ok [twin, twin] := by rfl
  exact ⟨hfound, (evaluate_iff_test filter [twin, twin]).2 _ hfound⟩

end Filter

end Registrar
