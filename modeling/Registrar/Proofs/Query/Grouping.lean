import Registrar.Proofs.Outcome
import Registrar.Proofs.Query.Distinct
import Registrar.Query.Grouping

/-!
# Groups are made of the records

There is one group for each tuple of values that records have in the group fields, in the order in
which the tuples are first seen. Its members are the records with that tuple, in their order, and
its values are those of the first of them.

## Main definitions

* `groupTuple` — what tells the group of a record.

## Main results

* `groupRecords_isOk` — records that have the group fields can be grouped.
* `groupRecords_forall₂` — the groups, tuple by tuple.
* `mem_groupRecords` — what a single group is made of.
-/

namespace Registrar

variable {α : Type} [HasFields α]

/-- The values of a record in the group fields, zeros without their sign. -/
def groupTuple (keys : List FieldKey) (record : α) : List FieldValue :=
  keys.filterMap fun key => (field? record key.field).map FieldValue.fold

theorem lookupField_eq_ok_iff {key : FieldKey} {record : α} {value : FieldValue} :
    lookupField key record = .ok value ↔ field? record key.field = some value := by
  rw [lookupField]
  split
  · next h => simp [h]
  · next h => simp [h]

theorem lookupField_eq_error_iff {key : FieldKey} {record : α} {defect : Defect} :
    lookupField key record = .error defect ↔ field? record key.field = none ∧
      defect = .noField key := by
  rw [lookupField]
  split
  · next h => simp [h]
  · next h => simp [h, eq_comm]

theorem keyed_eq_ok_iff {keys : List FieldKey} {record : α} {entry : List FieldValue × α} :
    keyed keys record = .ok entry ↔ entry.2 = record ∧
      List.Forall₂ (fun key value => field? record key.field = some value) keys entry.1 := by
  rw [keyed]
  simp only [bind_eq_ok_iff, mapM_eq_ok_iff, lookupField_eq_ok_iff, pure_eq_ok_iff]
  constructor
  · rintro ⟨values, hvalues, rfl⟩
    exact ⟨rfl, hvalues⟩
  · rintro ⟨rfl, hvalues⟩
    exact ⟨entry.1, hvalues, rfl⟩

theorem groupRecords_isOk {keys : List FieldKey} {records : List α}
    (h : ∀ record ∈ records, ∀ key ∈ keys, ∃ value, field? record key.field = some value) :
    ∃ groups, groupRecords keys records = .ok groups := by
  have hkeyed : ∀ record ∈ records, ∃ entry, keyed keys record = .ok entry := by
    intro record hrecord
    obtain ⟨values, hvalues⟩ : ∃ values, keys.mapM (lookupField · record) = .ok values := by
      rw [mapM_isOk_iff]
      intro key hkey
      obtain ⟨value, hvalue⟩ := h record hrecord key hkey
      exact ⟨value, lookupField_eq_ok_iff.mpr hvalue⟩
    exact ⟨(values, record), bind_eq_ok_iff.mpr ⟨values, hvalues, rfl⟩⟩
  obtain ⟨entries, hentries⟩ := mapM_isOk_iff.mpr hkeyed
  exact ⟨groupsOf entries, map_eq_ok_iff.mpr ⟨entries, hentries, rfl⟩⟩

/-- The tuple of a record is what its entry is told by. -/
theorem groupTuple_eq_identity {keys : List FieldKey} {record : α} {entry : List FieldValue × α}
    (h : keyed keys record = .ok entry) : groupTuple keys record = identity entry := by
  obtain ⟨rfl, hvalues⟩ := keyed_eq_ok_iff.mp h
  rw [identity, groupTuple]
  generalize entry.1 = values at hvalues
  clear h
  induction hvalues with
  | nil => rfl
  | cons hvalue _ ih => rw [List.filterMap_cons, hvalue, ih]; rfl

/-- **The groups, tuple by tuple.** -/
theorem groupRecords_forall₂ {keys : List FieldKey} {records : List α} {groups : List (Group α)}
    (h : groupRecords keys records = .ok groups) :
    List.Forall₂ (fun tuple group =>
        group.members = records.filter (fun record => groupTuple keys record = tuple) ∧
        ∃ first, group.members.head? = some first ∧
          List.Forall₂ (fun key value => field? first key.field = some value) keys group.key)
      (records.map (groupTuple keys)).eraseDups groups := by
  obtain ⟨entries, hentries, rfl⟩ := map_eq_ok_iff.mp h
  have hkeyed := mapM_eq_ok_iff.mp hentries
  have hentry : ∀ entry ∈ entries, groupTuple keys entry.2 = identity entry ∧
      List.Forall₂ (fun key value => field? entry.2 key.field = some value) keys entry.1 := by
    intro entry hmem
    obtain ⟨record, -, hrecord⟩ := exists_of_mem_forall₂ hkeyed hmem
    obtain ⟨rfl, hvalues⟩ := keyed_eq_ok_iff.mp hrecord
    exact ⟨groupTuple_eq_identity hrecord, hvalues⟩
  have hrecords : records = entries.map Prod.snd := by
    rw [← List.forall₂_eq_eq_eq, List.forall₂_map_right_iff]
    exact hkeyed.imp fun record entry hrecord => (keyed_eq_ok_iff.mp hrecord).1.symm
  have htuples : records.map (groupTuple keys) = entries.map identity := by
    rw [hrecords, List.map_map]
    exact List.map_congr_left fun entry hmem => (hentry entry hmem).1
  rw [groupsOf]
  generalize hidentified : entries.map (fun entry => (identity entry, entry)) = identified
  have hfirsts : (firstsBy Prod.fst [] identified).map Prod.fst =
      (records.map (groupTuple keys)).eraseDups := by
    rw [map_firstsBy_nil, htuples, ← hidentified, List.map_map]
    rfl
  rw [← hfirsts, List.forall₂_map_left_iff, List.forall₂_map_right_iff, List.forall₂_same]
  intro first hfirst
  have hmem := (firstsBy_sublist _ _ _).subset hfirst
  have hfind := find?_of_mem_firstsBy hfirst
  rw [← hidentified] at hmem
  obtain ⟨entry, hin, rfl⟩ := List.mem_map.mp hmem
  refine ⟨?_, entry.2, ?_, (hentry entry hin).2⟩
  · -- Members are told by the tuples of entries, which are those of the records.
    rw [← hidentified, hrecords, List.filter_map, List.filter_map, List.map_map]
    refine congrArg (List.map Prod.snd) (List.filter_congr fun other hother => ?_)
    simp only [Function.comp_apply, (hentry other hother).1]
  · rw [List.head?_map, List.head?_filter, hfind]
    rfl

/-- **What a single group is made of.** -/
theorem mem_groupRecords {keys : List FieldKey} {records : List α} {groups : List (Group α)}
    (h : groupRecords keys records = .ok groups) {group : Group α} (hgroup : group ∈ groups) :
    group.members ≠ [] ∧ (∀ record ∈ group.members, record ∈ records) ∧
      group.key.length = keys.length := by
  obtain ⟨tuple, -, hmembers, first, hfirst, hkey⟩ :=
    exists_of_mem_forall₂ (groupRecords_forall₂ h) hgroup
  refine ⟨List.ne_nil_of_mem (List.mem_of_mem_head? hfirst), fun record hrecord => ?_,
    hkey.length_eq.symm⟩
  rw [hmembers] at hrecord
  exact List.mem_of_mem_filter hrecord

end Registrar
