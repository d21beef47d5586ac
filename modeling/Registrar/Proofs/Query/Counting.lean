import Registrar.Proofs.Query.Partition
import Registrar.Proofs.Query.Safety

/-!
# Counting agrees with grouping

A count keeps the patterns of the numbers and the texts that it has seen. Grouping compares tuples
of values. The two do not share a notion of what a distinct value is, but they agree on it: going
through the records of a field, a count rises exactly where grouping by the field opens a group.

The relation between the two is kept by one more record, so it holds after all of them. What is
known of the number of groups is then known of counts: it does not depend on the order of the
records, and inside a group there is one value of each of its fields.

## Main definitions

* `DistinctValues.Knows` — a value is the same as one that was seen.
* `Matches` — distinct values and groups that stand for each other.

## Main results

* `Matches.join` — one more record keeps the relation.
* `distinctCount_eq_length` — a count is a number of groups.
* `count_agrees_with_groups` — the same for the reported aggregate, with what follows from it.
-/

namespace Registrar

variable {α : Type}

/-! ### Distinct values -/

namespace DistinctValues

variable {seen : DistinctValues} {value other : FieldValue}

/-- The value is the same as one that was seen. -/
def Knows (seen : DistinctValues) : FieldValue → Prop
  | .number value => value.foldZero.bits ∈ seen.patterns
  | .text value => value ∈ seen.texts

theorem not_knows_empty (value : FieldValue) : ¬empty.Knows value := by
  cases value <;> exact List.not_mem_nil

theorem knows_add : (seen.add value).Knows other ↔ other.Agrees value ∨ seen.Knows other := by
  rw [FieldValue.agrees_iff]
  cases value with
  | number value =>
    cases other with
    | number other =>
      have hbits : other.foldZero.bits = value.foldZero.bits ↔ other.foldZero = value.foldZero :=
        ⟨congrArg Binary64.mk, congrArg Binary64.bits⟩
      simp [Knows, add, FieldValue.fold, hbits]
    | text other => simp [Knows, add, FieldValue.fold]
  | text value =>
    cases other with
    | number other => simp [Knows, add, FieldValue.fold]
    | text other => simp [Knows, add, FieldValue.fold]

theorem count_add_of_knows (h : seen.Knows value) : (seen.add value).count = seen.count := by
  cases value with
  | number value => rw [add, count, List.length_insert_of_mem h, count]
  | text value => rw [add, count, List.length_insert_of_mem h, count]

theorem count_add_of_not_knows (h : ¬seen.Knows value) :
    (seen.add value).count = seen.count + 1 := by
  cases value with
  | number value =>
    rw [add, count, List.length_insert_of_not_mem h, count]
    exact Nat.add_right_comm _ _ _
  | text value =>
    rw [add, count, List.length_insert_of_not_mem h, count]
    exact (Nat.add_assoc _ _ _).symm

end DistinctValues

/-! ### Values and groups -/

/-- Distinct values of a field and groups by that field which stand for each other: a value was seen
exactly if there is a group of that value, and there are as many of both. -/
structure Matches (seen : DistinctValues) (groups : List (Group α)) : Prop where
  knows_iff : ∀ value, seen.Knows value ↔
    [value.fold] ∈ groups.map fun group => group.key.map FieldValue.fold
  count_eq : seen.count = groups.length

theorem Matches.empty : Matches DistinctValues.empty ([] : List (Group α)) where
  knows_iff value := iff_of_false (DistinctValues.not_knows_empty value) List.not_mem_nil
  count_eq := rfl

/-- **One more record keeps values and groups together.** -/
theorem Matches.join {seen : DistinctValues} {groups : List (Group α)} (h : Matches seen groups)
    (value : FieldValue) (record : α) :
    Matches (seen.add value) (joinGroup ([value], record) groups) := by
  have hknows (other : FieldValue) : (seen.add value).Knows other ↔ other.fold = value.fold ∨
      [other.fold] ∈ groups.map fun group => group.key.map FieldValue.fold := by
    rw [DistinctValues.knows_add, FieldValue.agrees_iff, h.knows_iff]
  obtain ⟨hnew, hjoin⟩ | ⟨before, group, after, rfl, hgroup, hjoin⟩ :=
    joinGroup_cases ([value], record) groups
  · have hunknown : ¬seen.Knows value := fun hseen => by
      obtain ⟨group, hmem, hkey⟩ := List.mem_map.mp ((h.knows_iff value).mp hseen)
      exact hnew group hmem hkey
    rw [hjoin]
    refine ⟨fun other => ?_, ?_⟩
    · rw [hknows, List.map_append, List.mem_append, or_comm]
      simp
    · rw [DistinctValues.count_add_of_not_knows hunknown, h.count_eq, List.length_append]
      rfl
  · have hmem : [value.fold] ∈ (before ++ group :: after).map fun group =>
        group.key.map FieldValue.fold :=
      List.mem_map.mpr ⟨group, List.mem_append_right _ List.mem_cons_self, hgroup⟩
    have hkeys : (before ++ group.push record :: after).map (fun group =>
        group.key.map FieldValue.fold) = (before ++ group :: after).map fun group =>
          group.key.map FieldValue.fold := by
      simp [Group.push]
    rw [hjoin]
    refine ⟨fun other => ?_, ?_⟩
    · rw [hknows, hkeys]
      exact or_iff_right_of_imp fun hsame => hsame ▸ hmem
    · rw [DistinctValues.count_add_of_knows ((h.knows_iff value).mpr hmem), h.count_eq,
        List.length_append, List.length_append]
      rfl

/-! ### Counts -/

variable [HasFields α] {key : FieldKey} {records : List α}

theorem keyed_singleton_eq_ok {record : α} {entry : List FieldValue × α}
    (h : keyed [key] record = .ok entry) :
    ∃ value, lookupField key record = .ok value ∧ entry = ([value], record) := by
  obtain ⟨rfl, hvalues⟩ := keyed_eq_ok_iff.mp h
  obtain ⟨value, rest, hvalue, hrest, hentry⟩ := List.forall₂_cons_left_iff.mp hvalues
  obtain rfl := List.forall₂_nil_left_iff.mp hrest
  exact ⟨value, lookupField_eq_ok_iff.mpr hvalue, Prod.ext hentry rfl⟩

/-- **Values and groups stand for each other after all records.** -/
theorem exists_matches {groups : List (Group α)} (h : groupRecords [key] records = .ok groups) :
    ∃ seen, distinctValues key records = .ok seen ∧ Matches seen groups := by
  induction records using List.reverseRecOn generalizing groups with
  | nil =>
    obtain ⟨entries, hentries, rfl⟩ := map_eq_ok_iff.mp h
    obtain rfl := pure_eq_ok_iff.mp hentries
    exact ⟨.empty, rfl, .empty⟩
  | append_singleton records record ih =>
    rw [groupRecords_concat] at h
    obtain ⟨earlier, hearlier, h⟩ := bind_eq_ok_iff.mp h
    obtain ⟨entry, hentry, h⟩ := bind_eq_ok_iff.mp h
    obtain rfl := pure_eq_ok_iff.mp h
    obtain ⟨value, hvalue, rfl⟩ := keyed_singleton_eq_ok hentry
    obtain ⟨seen, hseen, hmatches⟩ := ih hearlier
    refine ⟨seen.add value, ?_, hmatches.join value record⟩
    rw [distinctValues] at hseen ⊢
    rw [List.foldlM_append, hseen, bind_ok, List.foldlM_cons, hvalue]
    rfl

/-- **A count is a number of groups.** -/
theorem distinctCount_eq_length {groups : List (Group α)}
    (h : groupRecords [key] records = .ok groups) :
    distinctCount key records = .ok groups.length := by
  obtain ⟨seen, hseen, hmatches⟩ := exists_matches h
  rw [distinctCount, hseen, ← hmatches.count_eq]
  rfl

/-- Records that have a field can be grouped by it. -/
theorem groupRecords_singleton_isOk
    (h : ∀ record ∈ records, ∃ value, field? record key.field = some value) :
    ∃ groups, groupRecords [key] records = .ok groups :=
  groupRecords_isOk fun record hrecord => List.forall_mem_singleton.mpr (h record hrecord)

/-- A count is the size of a set of values. -/
theorem distinctCount_eq_card
    (h : ∀ record ∈ records, ∃ value, field? record key.field = some value) :
    distinctCount key records = .ok (records.map (groupTuple [key])).toFinset.card := by
  obtain ⟨groups, hgroups⟩ := groupRecords_singleton_isOk h
  rw [distinctCount_eq_length hgroups, ← length_eraseDups, (groupRecords_forall₂ hgroups).length_eq]

theorem distinctCount_perm {reordered : List α} (hperm : reordered.Perm records)
    (h : ∀ record ∈ records, ∃ value, field? record key.field = some value) :
    distinctCount key reordered = distinctCount key records := by
  rw [distinctCount_eq_card h, distinctCount_eq_card fun record hrecord =>
    h record (hperm.subset hrecord), List.toFinset_eq_of_perm _ _ (hperm.map _)]

/-- Records that agree on a value have one value. -/
theorem distinctCount_eq_one {value : FieldValue} (hne : records ≠ [])
    (h : ∀ record ∈ records, ∃ own, field? record key.field = some own ∧ own.Agrees value) :
    distinctCount key records = .ok 1 := by
  have htuple : ∀ record ∈ records, groupTuple [key] record = [value.fold] := by
    intro record hrecord
    obtain ⟨own, hown, hagrees⟩ := h record hrecord
    rw [groupTuple, List.filterMap_cons, hown, ← FieldValue.agrees_iff.mp hagrees]
    rfl
  rw [distinctCount_eq_card fun record hrecord => (h record hrecord).imp fun _ => And.left,
    List.map_congr_left htuple, List.map_const', List.toFinset_replicate_of_ne_zero,
    Finset.card_singleton]
  exact mt List.length_eq_zero_iff.mp hne

/-- The records with given values in some fields agree on the value of each field. -/
theorem exists_agrees_of_hasTuple {keys : List FieldKey} {values : List FieldValue}
    (hrecords : ∀ record ∈ records, HasTuple keys values record) (hne : records ≠ [])
    (hkey : key ∈ keys) : ∃ value, ∀ record ∈ records,
      ∃ own, field? record key.field = some own ∧ own.Agrees value := by
  obtain ⟨place, hplace, rfl⟩ := List.mem_iff_getElem.mp hkey
  obtain ⟨first, hfirst⟩ := List.exists_mem_of_ne_nil records hne
  have hlength := (hrecords first hfirst).length_eq
  exact ⟨values[place], fun record hrecord =>
    (List.forall₂_iff_get.mp (hrecords record hrecord)).2 place hplace (hlength ▸ hplace)⟩

/-- **Counting and grouping agree on what a distinct value is.** Over records that have a field, of
whatever kind its values are, the count of the field is the number of groups by it, and the order of
the records makes no difference. In a group that was formed by several fields, each of these fields
has one value. -/
theorem count_agrees_with_groups {rule : ApplyRule} (hrule : rule.aggregate = .count)
    (hfield : ∀ record ∈ records, ∃ value, field? record rule.key.field = some value) :
    (∃ groups, groupRecords [rule.key] records = .ok groups ∧
      rule.evaluate records = .ok (.number (.ofNat groups.length))) ∧
    (∀ reordered, reordered.Perm records → rule.evaluate reordered = rule.evaluate records) ∧
    ∀ keys groups, rule.key.field ∈ keys.map FieldKey.field →
      groupRecords keys records = .ok groups →
        ∀ group ∈ groups, rule.evaluate group.members = .ok (.number (.ofNat 1)) := by
  simp only [ApplyRule.evaluate, hrule]
  refine ⟨?_, fun reordered hperm => ?_, fun keys groups hkey hgroups group hgroup => ?_⟩
  · obtain ⟨groups, hgroups⟩ := groupRecords_singleton_isOk hfield
    exact ⟨groups, hgroups, by rw [distinctCount_eq_length hgroups]; rfl⟩
  · rw [distinctCount_perm hperm hfield]
  · have hpartition := orderedPartition_groupRecords hgroups
    have hne := hpartition.nonempty group hgroup
    obtain ⟨key, hmem, hsame⟩ := List.mem_map.mp hkey
    obtain ⟨value, hvalue⟩ :=
      exists_agrees_of_hasTuple (hpartition.tuples group hgroup) hne hmem
    rw [distinctCount_eq_one hne (hsame ▸ hvalue)]
    rfl

/-- Zeros of both signs are one value, a zero and the text of one are two. -/
theorem count_agrees_with_groups_zeros :
    let plus : Attributes := ⟨[("x", .number .zero), ("y", .text "b")]⟩
    let digit : Attributes := ⟨[("x", .text "0"), ("y", .text "b")]⟩
    let minus : Attributes := ⟨[("x", .number Binary64.zero.neg), ("y", .text "b")]⟩
    let records := [plus, digit, minus]
    let rule : ApplyRule := ⟨"n", .count, ⟨"d", "x"⟩⟩
    (∀ record ∈ records, ∃ value, field? record rule.key.field = some value) ∧
      (∃ groups, groupRecords [rule.key] records = .ok groups ∧
        groups.map Group.members = [[plus, minus], [digit]] ∧
        rule.evaluate records = .ok (.number (.ofNat 2)) ∧
        rule.evaluate records.reverse = .ok (.number (.ofNat 2))) ∧
      ∃ groups, groupRecords [⟨"d", "y"⟩, ⟨"d", "x"⟩] records = .ok groups ∧
        ∀ group ∈ groups, rule.evaluate group.members = .ok (.number (.ofNat 1)) := by
  intro plus digit minus records rule
  have hfield : ∀ record ∈ records, ∃ value, field? record rule.key.field = some value := by
    have hsome : ∀ record ∈ records, (field? record rule.key.field).isSome = true := by decide
    exact fun record hrecord => Option.isSome_iff_exists.mp (hsome record hrecord)
  have hfields : ∀ record ∈ records, ∀ key ∈ ([⟨"d", "y"⟩, ⟨"d", "x"⟩] : List FieldKey),
      ∃ value, field? record key.field = some value := by
    have hsome : ∀ record ∈ records, ∀ key ∈ ([⟨"d", "y"⟩, ⟨"d", "x"⟩] : List FieldKey),
        (field? record key.field).isSome = true := by decide
    exact fun record hrecord key hkey => Option.isSome_iff_exists.mp (hsome record hrecord key hkey)
  have hcounting : rule.aggregate = .count := rfl
  obtain ⟨⟨groups, hgroups, hcount⟩, hperm, hinside⟩ := count_agrees_with_groups hcounting hfield
  have hmembers : (groupRecords [rule.key] records).map (fun groups => groups.map Group.members) =
      .ok [[plus, minus], [digit]] := by
    decide +kernel
  rw [hgroups] at hmembers
  have hmembers := Except.ok.inj hmembers
  have htwo : groups.length = 2 := by simpa using congrArg List.length hmembers
  rw [htwo] at hcount
  obtain ⟨others, hothers⟩ := groupRecords_isOk hfields
  refine ⟨hfield, ⟨groups, hgroups, hmembers, hcount, ?_⟩, others, hothers, ?_⟩
  · rw [hperm _ (List.reverse_perm records), hcount]
  · exact hinside _ others (by decide) hothers

end Registrar
