import Registrar.Proofs.Query.Selection

/-!
# Selection is local

Disjunctions reorder what they select, and a conjunction hands a reordered list on to its next
branch. Still, what becomes of two records is their own affair: whether they come out of a filter
and which of them comes first does not depend on the records around them.

The reason is that every part of a selection commutes with leaving out positions. Testing record by
record does, because each test sees one record; a difference and a removal of repetitions do,
because both tell records by their positions. So if some positions are left out of the input, the
output is what it was, less these positions.

## Where the order of the input is kept

A negation filters its own input and forgets in which order its inner filter came to its result. A
filter whose disjunctions all stand below negations therefore returns records in the order in which
they came.

## Main definitions

* `restrict` — the entries at some positions.
* `Filter.KeepsOrder` — all disjunctions stand below negations.

## Main results

* `Filter.select_restrict` — a selection commutes with leaving out positions.
* `Filter.KeepsOrder.select_sublist` — filters of this form keep the order of their input.
* `Filter.select_local` — selection is local to the records compared.
-/

namespace Registrar

variable {α : Type}

/-- The entries at the positions that are kept. -/
def restrict (keep : Nat → Bool) (entries : List (α × Nat)) : List (α × Nat) :=
  entries.filter fun entry => keep entry.2

theorem restrict_cons (keep : Nat → Bool) (entry : α × Nat) (entries : List (α × Nat)) :
    restrict keep (entry :: entries) =
      if keep entry.2 then entry :: restrict keep entries else restrict keep entries :=
  List.filter_cons

/-! ### The parts of a selection -/

theorem retain_restrict {test : α → Except Defect Bool} (keep : Nat → Bool)
    {entries kept : List (α × Nat)} (h : retain test entries = .ok kept) :
    retain test (restrict keep entries) = .ok (restrict keep kept) := by
  induction entries generalizing kept with
  | nil =>
    cases h
    rfl
  | cons entry entries ih =>
    rw [retain] at h
    simp only [bind_eq_ok_iff, pure_eq_ok_iff] at h
    obtain ⟨holds, hholds, rest, hrest, rfl⟩ := h
    rw [restrict_cons]
    by_cases hkeep : keep entry.2 = true
    · rw [if_pos hkeep, retain, hholds, ih hrest]
      cases holds with
      | true => rw [if_pos rfl, restrict_cons, if_pos hkeep]; rfl
      | false => rfl
    · rw [if_neg hkeep, ih hrest]
      cases holds with
      | true => rw [if_pos rfl, restrict_cons, if_neg hkeep]
      | false => rfl

theorem without_restrict (keep : Nat → Bool) (excluded entries : List (α × Nat)) :
    without (restrict keep excluded) (restrict keep entries) =
      restrict keep (without excluded entries) := by
  simp only [without, restrict, List.filter_filter]
  refine List.filter_congr fun entry _ => ?_
  rw [Bool.eq_iff_iff, Bool.and_eq_true, Bool.and_eq_true, and_comm]
  refine and_congr_right fun hkeep => ?_
  -- A position that is kept is among those of the kept entries if it was among all.
  rw [Bool.not_eq_true', Bool.not_eq_true', ← Bool.not_eq_true, ← Bool.not_eq_true, not_iff_not,
    List.contains_iff_mem, List.contains_iff_mem, List.mem_map, List.mem_map]
  refine exists_congr fun other => and_congr_left fun hother => ?_
  rw [List.mem_filter, hother, and_iff_left hkeep]

theorem restrict_append (keep : Nat → Bool) (first second : List (α × Nat)) :
    restrict keep (first ++ second) = restrict keep first ++ restrict keep second :=
  List.filter_append ..

/-- Of entries told apart by their positions, those of a shorter list are those at its positions. -/
theorem restrict_of_sublist {entries fewer : List (α × Nat)} (h : Positioned entries)
    (hfewer : fewer.Sublist entries) :
    restrict (fun position => decide (position ∈ fewer.map Prod.snd)) entries = fewer := by
  induction hfewer with
  | slnil => rfl
  | @cons fewer entries entry hsub ih =>
    obtain ⟨hentry, hentries⟩ := List.nodup_cons.mp h
    have hnot : entry.2 ∉ fewer.map Prod.snd := fun hmem => hentry ((hsub.map Prod.snd).subset hmem)
    rw [restrict_cons, if_neg (by simpa using hnot)]
    exact ih hentries
  | @cons_cons fewer entries entry hsub ih =>
    obtain ⟨hentry, hentries⟩ := List.nodup_cons.mp h
    rw [restrict_cons, if_pos (by simp)]
    refine congrArg (entry :: ·) ((List.filter_congr fun other hother => ?_).trans (ih hentries))
    have hne : other.2 ≠ entry.2 := fun heq => hentry (heq ▸ List.mem_map_of_mem hother)
    simp only [List.map_cons, List.mem_cons, hne, false_or]

variable [HasFields α]

namespace Filter

/-! ### Leaving out positions -/

mutual

/-- **A selection commutes with leaving out positions.** -/
theorem select_restrict (filter : Filter) (keep : Nat → Bool) {entries kept : List (α × Nat)}
    (h : filter.select entries = .ok kept) :
    filter.select (restrict keep entries) = .ok (restrict keep kept) := by
  cases filter with
  | all =>
    rw [select] at h ⊢
    cases h
    rfl
  | not inner =>
    rw [select] at h ⊢
    simp only [bind_eq_ok_iff, pure_eq_ok_iff] at h
    obtain ⟨excluded, hexcluded, rfl⟩ := h
    rw [select_restrict inner keep hexcluded, bind_ok, without_restrict]
    rfl
  | and branches =>
    rw [select] at h ⊢
    exact selectAll_restrict branches keep h
  | or branches =>
    rw [select] at h ⊢
    simp only [bind_eq_ok_iff, pure_eq_ok_iff] at h
    obtain ⟨found, hfound, rfl⟩ := h
    rw [selectEach_restrict branches keep hfound, bind_ok]
    exact congrArg Except.ok (firstsBy_filter Prod.snd keep [] found)
  | compare op key operand =>
    rw [select] at h ⊢
    exact retain_restrict keep h
  | accepts key pattern =>
    rw [select] at h ⊢
    exact retain_restrict keep h

theorem selectAll_restrict (branches : List Filter) (keep : Nat → Bool)
    {entries kept : List (α × Nat)} (h : selectAll branches entries = .ok kept) :
    selectAll branches (restrict keep entries) = .ok (restrict keep kept) := by
  cases branches with
  | nil =>
    rw [selectAll] at h ⊢
    cases h
    rfl
  | cons branch branches =>
    rw [selectAll] at h ⊢
    obtain ⟨narrowed, hnarrowed, hkept⟩ := bind_eq_ok_iff.mp h
    rw [select_restrict branch keep hnarrowed, bind_ok]
    exact selectAll_restrict branches keep hkept

theorem selectEach_restrict (branches : List Filter) (keep : Nat → Bool)
    {entries found : List (α × Nat)} (h : selectEach branches entries = .ok found) :
    selectEach branches (restrict keep entries) = .ok (restrict keep found) := by
  cases branches with
  | nil =>
    rw [selectEach] at h ⊢
    cases h
    rfl
  | cons branch branches =>
    rw [selectEach] at h ⊢
    simp only [bind_eq_ok_iff, pure_eq_ok_iff] at h
    obtain ⟨first, hfirst, rest, hrest, rfl⟩ := h
    rw [select_restrict branch keep hfirst, bind_ok, selectEach_restrict branches keep hrest,
      bind_ok, restrict_append]
    rfl

end

/-! ### The order of the input -/

/-- All disjunctions of the filter stand below negations. -/
inductive KeepsOrder : Filter → Prop
  | all : KeepsOrder .all
  | not (inner : Filter) : KeepsOrder (.not inner)
  | and {branches : List Filter} (h : ∀ branch ∈ branches, KeepsOrder branch) :
      KeepsOrder (.and branches)
  | compare (op : Comparator) (key : FieldKey) (operand : Binary64) :
      KeepsOrder (.compare op key operand)
  | accepts (key : FieldKey) (pattern : Pattern) : KeepsOrder (.accepts key pattern)

/-- Branches that keep the order one by one keep it together. -/
theorem selectAll_sublist {branches : List Filter}
    (hbranches : ∀ branch ∈ branches, ∀ {entries kept : List (α × Nat)},
      branch.select entries = .ok kept → kept.Sublist entries)
    {entries kept : List (α × Nat)} (h : selectAll branches entries = .ok kept) :
    kept.Sublist entries := by
  induction branches generalizing entries with
  | nil =>
    rw [selectAll] at h
    cases h
    exact List.Sublist.refl _
  | cons branch branches ih =>
    obtain ⟨hbranch, hbranches⟩ := List.forall_mem_cons.mp hbranches
    rw [selectAll] at h
    obtain ⟨narrowed, hnarrowed, hkept⟩ := bind_eq_ok_iff.mp h
    exact (ih hbranches hkept).trans (hbranch hnarrowed)

/-- **What such a filter selects is in the order of its input.** -/
theorem KeepsOrder.select_sublist {filter : Filter} (hfilter : filter.KeepsOrder)
    {entries kept : List (α × Nat)} (h : filter.select entries = .ok kept) :
    kept.Sublist entries := by
  induction hfilter generalizing entries kept with
  | all =>
    rw [select] at h
    cases h
    exact List.Sublist.refl _
  | not inner =>
    rw [select] at h
    simp only [bind_eq_ok_iff, pure_eq_ok_iff] at h
    obtain ⟨excluded, -, rfl⟩ := h
    exact List.filter_sublist
  | and _ ih =>
    rw [select] at h
    exact selectAll_sublist ih h
  | compare op key operand =>
    rw [select] at h
    exact sublist_of_retain h
  | accepts key pattern =>
    rw [select] at h
    exact sublist_of_retain h

/-! ### Locality -/

/-- **Selection is local to the records compared.** A list of entries with different positions, on
which a filter does not fail, can be shortened at will: the filter selects from the shorter list
what it selected before, less the positions that were left out, in the same order. So two lists that
agree on some positions, in their order, lead to results that agree on them. And a filter whose
disjunctions all stand below negations returns the order of its input. -/
theorem select_local (filter : Filter) {entries kept : List (α × Nat)}
    (hpositions : (entries.map Prod.snd).Nodup) (hkept : filter.select entries = .ok kept) :
    (∀ fewer, fewer.Sublist entries → filter.select fewer =
      .ok (kept.filter fun entry => decide (entry.2 ∈ fewer.map Prod.snd))) ∧
    (∀ others kept' keep, filter.select others = .ok kept' →
      restrict keep entries = restrict keep others → restrict keep kept = restrict keep kept') ∧
    (filter.KeepsOrder → kept.Sublist entries) := by
  refine ⟨fun fewer hfewer => ?_, fun others kept' keep hothers hsame => ?_,
    fun hfilter => hfilter.select_sublist hkept⟩
  · have hrestrict := select_restrict filter
      (fun position => decide (position ∈ fewer.map Prod.snd)) hkept
    rwa [restrict_of_sublist hpositions hfewer] at hrestrict
  · have hentries := select_restrict filter keep hkept
    have hother := select_restrict filter keep hothers
    rw [hsame, hother] at hentries
    exact (Except.ok.inj hentries).symm

/-- A disjunction that brings the second of three records to the front does so without the third
record too. Below a negation it leaves the other two records in their order. -/
theorem select_local_reordered :
    let named (name : String) : Attributes := ⟨[("name", .text name)]⟩
    let moves : Filter := .or [.accepts ⟨"d", "name"⟩ ⟨false, ['b'], false⟩, .all]
    let stays : Filter := .not (.or [.accepts ⟨"d", "name"⟩ ⟨false, ['b'], false⟩])
    let entries := [named "a", named "b", named "c"].zipIdx
    moves.select entries = .ok [(named "b", 1), (named "a", 0), (named "c", 2)] ∧
      moves.select (entries.take 2) = .ok [(named "b", 1), (named "a", 0)] ∧
      stays.select entries = .ok [(named "a", 0), (named "c", 2)] ∧
      [(named "a", 0), (named "c", 2)].Sublist entries := by
  intro named moves stays entries
  have hpositions : (entries.map Prod.snd).Nodup := by decide
  have hmoves : moves.select entries = .ok [(named "b", 1), (named "a", 0), (named "c", 2)] := by
    rfl
  have hstays : stays.select entries = .ok [(named "a", 0), (named "c", 2)] := by rfl
  exact ⟨hmoves, (select_local moves hpositions hmoves).1 _ (List.take_sublist 2 entries), hstays,
    (select_local stays hpositions hstays).2.2 (.not _)⟩

end Filter

end Registrar
