import Mathlib.Data.List.Range
import Registrar.Dataset.Record
import Registrar.Proofs.Query.Grouping

/-!
# Groups are an ordered partition

Grouping is told here by what one more record does to the groups of those before it: the record goes
to the end of the group with its values, or opens a group after all others. What holds of the groups
of no records and is kept by one more record holds of all groups.

## Where a record is

Equal records cannot be told apart, so a partition of the records as such would not say that each
of two equal ones is in some group. The invariant therefore speaks of places in the list of records.
Every group has its places, each place belongs to one group, and inside a group as well as from one
group's first place to the next group's they grow.

## Main definitions

* `FieldValue.Agrees` — equality of values as grouping tells it.
* `joinGroup` — what one more record does to the groups.
* `OrderedPartition` — the groups of a list of records, told by the places of their members.

## Main results

* `FieldValue.agrees_equivalence` — the equality of values is one.
* `groupRecords_concat` — one more record.
* `OrderedPartition.join` — the partition is kept by one more record.
* `groupRecords_partitions` — the groups of all records are an ordered partition, or a field is
  missing.
-/

namespace Registrar

/-! ### Equality of values -/

namespace FieldValue

/-- Equality of values as grouping tells it: the same bit pattern, or two zeros, or the same text.
A number agrees with no text. -/
inductive Agrees : FieldValue → FieldValue → Prop
  | bits {a b : Binary64} (h : a.bits = b.bits) : Agrees (number a) (number b)
  | zeros {a b : Binary64} (ha : a.isZero = true) (hb : b.isZero = true) :
      Agrees (number a) (number b)
  | text (characters : String) : Agrees (text characters) (text characters)

theorem agrees_iff {a b : FieldValue} : a.Agrees b ↔ a.fold = b.fold := by
  constructor
  · intro h
    cases h with
    | @bits a b h =>
      obtain rfl : a = b := congrArg Binary64.mk h
      rfl
    | zeros ha hb => simp [fold, Binary64.foldZero, ha, hb]
    | text => rfl
  · intro h
    cases a with
    | text a =>
      cases b with
      | text b =>
        obtain rfl : a = b := by simpa [fold] using h
        exact .text a
      | number b => simp [fold] at h
    | number a =>
      cases b with
      | text b => simp [fold] at h
      | number b =>
        simp only [fold, Binary64.foldZero, number.injEq] at h
        split_ifs at h with ha hb hb
        · exact .zeros ha hb
        · exact absurd (h ▸ rfl) hb
        · exact absurd (h ▸ rfl) ha
        · exact .bits (congrArg _ h)

theorem agrees_equivalence : Equivalence Agrees where
  refl _ := agrees_iff.mpr rfl
  symm h := agrees_iff.mpr (agrees_iff.mp h).symm
  trans h h' := agrees_iff.mpr ((agrees_iff.mp h).trans (agrees_iff.mp h'))

/-- Tuples agree value by value. -/
theorem forall₂_agrees_iff {as bs : List FieldValue} :
    List.Forall₂ Agrees as bs ↔ as.map fold = bs.map fold := by
  rw [← List.forall₂_eq_eq_eq, List.forall₂_map_left_iff, List.forall₂_map_right_iff]
  exact ⟨fun h => h.imp fun _ _ => agrees_iff.mp, fun h => h.imp fun _ _ => agrees_iff.mpr⟩

end FieldValue

variable {α : Type}

/-! ### One more record -/

/-- The group with one more record, after the others. -/
def Group.push (group : Group α) (record : α) : Group α :=
  ⟨group.key, group.members ++ [record]⟩

/-- Puts a record into the group of its values, or opens a group for it after all others. -/
def joinGroup (entry : List FieldValue × α) : List (Group α) → List (Group α)
  | [] => [⟨entry.1, [entry.2]⟩]
  | group :: groups =>
    if group.key.map FieldValue.fold = identity entry then group.push entry.2 :: groups
    else group :: joinGroup entry groups

/-- Either no group has the values of the record, or the record joins one that has. -/
theorem joinGroup_cases (entry : List FieldValue × α) (groups : List (Group α)) :
    ((∀ group ∈ groups, group.key.map FieldValue.fold ≠ identity entry) ∧
      joinGroup entry groups = groups ++ [⟨entry.1, [entry.2]⟩]) ∨
    ∃ before group after, groups = before ++ group :: after ∧
      group.key.map FieldValue.fold = identity entry ∧
      joinGroup entry groups = before ++ group.push entry.2 :: after := by
  induction groups with
  | nil => exact .inl ⟨fun _ h => absurd h List.not_mem_nil, rfl⟩
  | cons first groups ih =>
    rw [joinGroup]
    split
    · next hfirst => exact .inr ⟨[], first, groups, rfl, hfirst, rfl⟩
    · next hfirst =>
      obtain ⟨hnone, hjoin⟩ | ⟨before, group, after, rfl, hgroup, hjoin⟩ := ih
      · exact .inl ⟨List.forall_mem_cons.mpr ⟨hfirst, hnone⟩, by rw [hjoin]; rfl⟩
      · exact .inr ⟨first :: before, group, after, rfl, hgroup, by rw [hjoin]; rfl⟩

/-- The group that a first entry opens. -/
def groupFrom (identified : List (List FieldValue × List FieldValue × α))
    (first : List FieldValue × List FieldValue × α) : Group α :=
  ⟨first.2.1, (identified.filter fun entry => entry.1 = first.1).map fun entry => entry.2.2⟩

theorem groupsOf_eq_map (entries : List (List FieldValue × α)) :
    groupsOf entries = (firstsBy Prod.fst [] (entries.map fun entry => (identity entry, entry))).map
      (groupFrom (entries.map fun entry => (identity entry, entry))) :=
  rfl

theorem groupFrom_concat_of_eq {first entry : List FieldValue × List FieldValue × α}
    (identified : List (List FieldValue × List FieldValue × α)) (h : entry.1 = first.1) :
    groupFrom (identified ++ [entry]) first = (groupFrom identified first).push entry.2.2 := by
  simp [groupFrom, Group.push, List.filter_append, h]

theorem groupFrom_concat_of_ne {first entry : List FieldValue × List FieldValue × α}
    (identified : List (List FieldValue × List FieldValue × α)) (h : first.1 ≠ entry.1) :
    groupFrom (identified ++ [entry]) first = groupFrom identified first := by
  simp [groupFrom, List.filter_append, h.symm]

section FirstEntries

variable {identified firsts : List (List FieldValue × List FieldValue × α)}
  {entry : List FieldValue × α}

theorem map_groupFrom_concat (h : identity entry ∉ firsts.map Prod.fst) :
    firsts.map (groupFrom (identified ++ [(identity entry, entry)])) =
      firsts.map (groupFrom identified) :=
  List.map_congr_left fun first hfirst => groupFrom_concat_of_ne _ fun hsame =>
    h (List.mem_map.mpr ⟨first, hfirst, hsame⟩)

/-- The record joins the group of the first entry with its identity. -/
theorem joinGroup_of_mem (hidentity : ∀ first ∈ firsts, identity first.2 = first.1)
    (hnodup : (firsts.map Prod.fst).Nodup) (hmem : identity entry ∈ firsts.map Prod.fst) :
    joinGroup entry (firsts.map (groupFrom identified)) =
      firsts.map (groupFrom (identified ++ [(identity entry, entry)])) := by
  induction firsts with
  | nil => cases hmem
  | cons first firsts ih =>
    obtain ⟨hfirst, hfirsts⟩ := List.forall_mem_cons.mp hidentity
    obtain ⟨hother, hrest⟩ := List.nodup_cons.mp hnodup
    have hkey : (groupFrom identified first).key.map FieldValue.fold = first.1 := hfirst
    rw [List.map_cons, List.map_cons, joinGroup, hkey]
    split
    · next hsame =>
      rw [groupFrom_concat_of_eq _ hsame.symm, map_groupFrom_concat (hsame ▸ hother)]
    · next hne =>
      have htail := (List.mem_cons.mp hmem).resolve_left (Ne.symm hne)
      rw [groupFrom_concat_of_ne _ hne, ih hfirsts hrest htail]

/-- The record of a new identity passes all groups by. -/
theorem joinGroup_of_not_mem (hidentity : ∀ first ∈ firsts, identity first.2 = first.1)
    (hmem : identity entry ∉ firsts.map Prod.fst) :
    joinGroup entry (firsts.map (groupFrom identified)) =
      firsts.map (groupFrom identified) ++ [⟨entry.1, [entry.2]⟩] := by
  induction firsts with
  | nil => rfl
  | cons first firsts ih =>
    obtain ⟨hfirst, hfirsts⟩ := List.forall_mem_cons.mp hidentity
    obtain ⟨hne, hrest⟩ := not_or.mp (mt List.mem_cons.mpr hmem)
    have hkey : (groupFrom identified first).key.map FieldValue.fold = first.1 := hfirst
    rw [List.map_cons, joinGroup, hkey, if_neg (Ne.symm hne), ih hfirsts hrest, List.cons_append]

end FirstEntries

/-- **One more record after those that are grouped.** -/
theorem groupsOf_concat (entries : List (List FieldValue × α)) (entry : List FieldValue × α) :
    groupsOf (entries ++ [entry]) = joinGroup entry (groupsOf entries) := by
  rw [groupsOf_eq_map, groupsOf_eq_map, List.map_append, List.map_cons, List.map_nil,
    firstsBy_concat]
  generalize hidentified : entries.map (fun entry => (identity entry, entry)) = identified
  have hidentity : ∀ first ∈ firstsBy Prod.fst [] identified, identity first.2 = first.1 := by
    intro first hfirst
    have hmem := (firstsBy_sublist Prod.fst [] identified).subset hfirst
    rw [← hidentified] at hmem
    obtain ⟨_, -, rfl⟩ := List.mem_map.mp hmem
    rfl
  have hseen : identity entry ∈ (firstsBy Prod.fst [] identified).map Prod.fst ↔
      identity entry ∈ identified.map Prod.fst := by
    rw [mem_map_firstsBy, and_iff_left List.not_mem_nil]
  by_cases hmem : identity entry ∈ identified.map Prod.fst
  · rw [if_pos (.inr hmem), List.append_nil]
    exact (joinGroup_of_mem hidentity (nodup_map_firstsBy _ _ _) (hseen.mpr hmem)).symm
  · have hnone : identified.filter (fun other => other.1 = identity entry) = [] := by
      rw [List.filter_eq_nil_iff]
      intro other hother h
      exact hmem (of_decide_eq_true h ▸ List.mem_map_of_mem hother)
    rw [if_neg (by simpa using hmem), joinGroup_of_not_mem hidentity (mt hseen.mp hmem),
      List.map_append, map_groupFrom_concat (mt hseen.mp hmem), List.map_singleton]
    simp [groupFrom, List.filter_append, hnone]

theorem groupRecords_concat [HasFields α] (keys : List FieldKey) (records : List α) (record : α) :
    groupRecords keys (records ++ [record]) = (do
      let groups ← groupRecords keys records
      let entry ← keyed keys record
      return joinGroup entry groups) := by
  rw [groupRecords, groupRecords, List.mapM_append]
  cases records.mapM (keyed keys) with
  | error e => rfl
  | ok entries =>
    cases h : keyed keys record with
    | error e => simp [Except.map, h, bind, Except.bind]
    | ok entry =>
      simp [Except.map, h, bind, Except.bind, pure, Except.pure, groupsOf_concat]

/-! ### The partition -/

/-- The record has the values in the fields. -/
def HasTuple [HasFields α] (keys : List FieldKey) (values : List FieldValue) (record : α) : Prop :=
  List.Forall₂ (fun key value => ∃ own, field? record key.field = some own ∧ own.Agrees value)
    keys values

/-- The members of a group are the records at the given places, which grow. -/
structure Occupies (records : List α) (places : List Nat) (group : Group α) : Prop where
  members : group.members.map some = places.map fun place => records[place]?
  grow : places.Pairwise (· < ·)

/-- Groups that partition the records, in order. -/
structure OrderedPartition [HasFields α] (keys : List FieldKey) (records : List α)
    (groups : List (Group α)) : Prop where
  nonempty : ∀ group ∈ groups, group.members ≠ []
  /-- The values of a group are those of each of its members. -/
  tuples : ∀ group ∈ groups, ∀ record ∈ group.members, HasTuple keys group.key record
  /-- The values of different groups are different. -/
  distinct : groups.Pairwise fun group later => ¬List.Forall₂ FieldValue.Agrees group.key later.key
  /-- Every place in the list of records belongs to exactly one group, and the groups are ordered by
  their first places. -/
  places : ∃ places : List (List Nat), List.Forall₂ (Occupies records) places groups ∧
    places.flatten.Perm (List.range records.length) ∧
    (places.filterMap List.head?).Pairwise (· < ·)

namespace Occupies

variable {records : List α} {places : List Nat} {group : Group α}

/-- A group stays where it is if a record is added. -/
theorem append (h : Occupies records places group) (record : α)
    (hplaces : ∀ place ∈ places, place < records.length) :
    Occupies (records ++ [record]) places group where
  members := by
    rw [h.members]
    refine List.map_congr_left fun place hplace => ?_
    rw [List.getElem?_append_left (hplaces place hplace)]
  grow := h.grow

/-- A group that the added record joins gets the last place. -/
theorem push (h : Occupies records places group) (record : α)
    (hplaces : ∀ place ∈ places, place < records.length) :
    Occupies (records ++ [record]) (places ++ [records.length]) (group.push record) where
  members := by
    rw [Group.push, List.map_append, List.map_append, (h.append record hplaces).members]
    simp
  grow := by
    rw [List.pairwise_append]
    refine ⟨h.grow, List.pairwise_singleton _ _, fun place hplace last hlast => ?_⟩
    rw [List.mem_singleton.mp hlast]
    exact hplaces place hplace

end Occupies

variable [HasFields α]

/-- A record has the values it was looked up with, and all values that agree with them. -/
theorem hasTuple_of_keyed {keys : List FieldKey} {record : α} {entry : List FieldValue × α}
    {values : List FieldValue} (h : keyed keys record = .ok entry)
    (hvalues : values.map FieldValue.fold = identity entry) : HasTuple keys values record := by
  obtain ⟨-, hown⟩ := keyed_eq_ok_iff.mp h
  have hagrees := FieldValue.forall₂_agrees_iff.mpr hvalues.symm
  rw [HasTuple]
  generalize entry.1 = own at hown hagrees
  clear h hvalues
  induction hown generalizing values with
  | nil =>
    obtain rfl := List.forall₂_nil_left_iff.mp hagrees
    exact .nil
  | cons hfield _ ih =>
    obtain ⟨value, rest, hvalue, hrest, rfl⟩ := List.forall₂_cons_left_iff.mp hagrees
    exact .cons ⟨_, hfield, hvalue⟩ (ih hrest)

namespace OrderedPartition

variable {keys : List FieldKey} {records : List α} {groups : List (Group α)}

theorem nil (keys : List FieldKey) : OrderedPartition keys ([] : List α) [] where
  nonempty := fun _ h => absurd h List.not_mem_nil
  tuples := fun _ h => absurd h List.not_mem_nil
  distinct := .nil
  places := ⟨[], .nil, .refl _, .nil⟩

theorem place_lt {places : List (List Nat)} {length : Nat}
    (h : places.flatten.Perm (List.range length)) : ∀ own ∈ places, ∀ place ∈ own, place < length :=
  fun _ hown _ hplace => List.mem_range.mp (h.mem_iff.mp (List.mem_flatten_of_mem hown hplace))

/-- A record with new values opens a group after all others. -/
theorem opening (h : OrderedPartition keys records groups) {record : α} {values : List FieldValue}
    (hrecord : HasTuple keys values record)
    (hnew : ∀ group ∈ groups, group.key.map FieldValue.fold ≠ values.map FieldValue.fold) :
    OrderedPartition keys (records ++ [record]) (groups ++ [⟨values, [record]⟩]) := by
  refine ⟨?nonempty, ?tuples, ?distinct, ?places⟩
  case nonempty =>
    rw [List.forall_mem_append, List.forall_mem_singleton]
    exact ⟨h.nonempty, List.cons_ne_nil _ _⟩
  case tuples =>
    rw [List.forall_mem_append, List.forall_mem_singleton, List.forall_mem_singleton]
    exact ⟨h.tuples, hrecord⟩
  case distinct =>
    rw [List.pairwise_append]
    refine ⟨h.distinct, List.pairwise_singleton _ _, fun group hgroup last hlast => ?_⟩
    rw [List.mem_singleton.mp hlast, FieldValue.forall₂_agrees_iff]
    exact hnew group hgroup
  case places =>
    obtain ⟨places, hoccupies, hperm, hfirsts⟩ := h.places
    have hbound := place_lt hperm
    refine ⟨places ++ [[records.length]], ?_, ?_, ?_⟩
    · refine List.rel_append ?_ (.cons ⟨by simp, List.pairwise_singleton _ _⟩ .nil)
      refine ((List.forall₂_and_left _ _).mpr ⟨hbound, hoccupies⟩).imp ?_
      rintro own group ⟨hown, hplaces⟩
      exact hplaces.append record hown
    · rw [List.flatten_append, List.length_append, List.length_singleton, List.range_succ]
      exact hperm.append_right _
    · rw [List.filterMap_append, List.pairwise_append]
      refine ⟨hfirsts, List.pairwise_singleton _ _, fun place hplace last hlast => ?_⟩
      obtain ⟨own, hown, hhead⟩ := List.mem_filterMap.mp hplace
      rw [List.mem_singleton.mp hlast]
      exact hbound own hown place (List.mem_of_mem_head? hhead)

/-- A record with the values of a group goes to the end of that group. -/
theorem joining {before after : List (Group α)} {group : Group α}
    (h : OrderedPartition keys records (before ++ group :: after)) {record : α}
    (hrecord : HasTuple keys group.key record) :
    OrderedPartition keys (records ++ [record]) (before ++ group.push record :: after) := by
  have hmem : group ∈ before ++ group :: after := List.mem_append_right _ List.mem_cons_self
  have hothers : ∀ other ∈ before ++ group.push record :: after,
      other = group.push record ∨ other ∈ before ++ group :: after := by
    intro other hother
    simp only [List.mem_append, List.mem_cons] at hother ⊢
    tauto
  refine ⟨?nonempty, ?tuples, ?distinct, ?places⟩
  case nonempty =>
    intro other hother
    obtain rfl | hother := hothers other hother
    · simp [Group.push]
    · exact h.nonempty other hother
  case tuples =>
    intro other hother
    obtain rfl | hother := hothers other hother
    · rw [Group.push, List.forall_mem_append, List.forall_mem_singleton]
      exact ⟨h.tuples group hmem, hrecord⟩
    · exact h.tuples other hother
  case distinct =>
    have hkeys : (before ++ group.push record :: after).map Group.key =
        (before ++ group :: after).map Group.key := by
      simp [Group.push]
    have hdistinct := h.distinct
    rw [← List.pairwise_map (f := Group.key)
      (R := fun key later => ¬List.Forall₂ FieldValue.Agrees key later)] at hdistinct ⊢
    rwa [hkeys]
  case places =>
    obtain ⟨places, hoccupies, hperm, hfirsts⟩ := h.places
    obtain ⟨first, own, last, rfl, hfirst, ⟨hbound, hown⟩, hlast⟩ := exists_split_of_forall₂
      ((List.forall₂_and_left _ _).mpr ⟨place_lt hperm, hoccupies⟩)
    have hne : own ≠ [] := by
      rintro rfl
      exact h.nonempty group hmem (by simpa using hown.members)
    refine ⟨first ++ (own ++ [records.length]) :: last, ?_, ?_, ?_⟩
    · refine List.rel_append (hfirst.imp ?_) (.cons (hown.push record hbound) (hlast.imp ?_))
      all_goals
        rintro other _ ⟨hother, hplaces⟩
        exact hplaces.append record hother
    · rw [List.length_append, List.length_singleton, List.range_succ]
      refine .trans ?_ (hperm.append_right _)
      simp only [List.flatten_append, List.flatten_cons, List.append_assoc]
      exact (List.perm_append_comm.append_left own).append_left first.flatten
    · rw [List.filterMap_append, List.filterMap_cons] at hfirsts ⊢
      rwa [List.head?_append_of_ne_nil _ hne]

/-- **One more record keeps the partition.** -/
theorem join (h : OrderedPartition keys records groups) {record : α}
    {entry : List FieldValue × α} (hentry : keyed keys record = .ok entry) :
    OrderedPartition keys (records ++ [record]) (joinGroup entry groups) := by
  obtain rfl : entry.2 = record := (keyed_eq_ok_iff.mp hentry).1
  obtain ⟨hnew, hjoin⟩ | ⟨before, group, after, rfl, hgroup, hjoin⟩ := joinGroup_cases entry groups
  · rw [hjoin]
    exact h.opening (hasTuple_of_keyed hentry rfl) hnew
  · rw [hjoin]
    exact h.joining (hasTuple_of_keyed hentry hgroup)

end OrderedPartition

theorem orderedPartition_groupRecords {keys : List FieldKey} {records : List α}
    {groups : List (Group α)} (h : groupRecords keys records = .ok groups) :
    OrderedPartition keys records groups := by
  induction records using List.reverseRecOn generalizing groups with
  | nil =>
    obtain ⟨entries, hentries, rfl⟩ := map_eq_ok_iff.mp h
    obtain rfl := pure_eq_ok_iff.mp hentries
    exact .nil keys
  | append_singleton records record ih =>
    rw [groupRecords_concat] at h
    obtain ⟨earlier, hearlier, h⟩ := bind_eq_ok_iff.mp h
    obtain ⟨entry, hentry, h⟩ := bind_eq_ok_iff.mp h
    obtain rfl := pure_eq_ok_iff.mp h
    exact (ih hearlier).join hentry

/-- **Groups are an ordered partition of the records.** Records that have all group fields have
groups, which partition them in order; if a record lacks a group field there are none, and the field
that is named is one that a record lacks. -/
theorem groupRecords_partitions (keys : List FieldKey) (records : List α) :
    ((∀ record ∈ records, ∀ key ∈ keys, ∃ value, field? record key.field = some value) →
      ∃ groups, groupRecords keys records = .ok groups ∧ OrderedPartition keys records groups) ∧
    ((∃ record ∈ records, ∃ key ∈ keys, field? record key.field = none) →
      ∃ key ∈ keys, (∃ record ∈ records, field? record key.field = none) ∧
        groupRecords keys records = .error (.noField key)) := by
  constructor
  · intro h
    obtain ⟨groups, hgroups⟩ := groupRecords_isOk h
    exact ⟨groups, hgroups, orderedPartition_groupRecords hgroups⟩
  · rintro ⟨record, hrecord, key, hkey, hlacks⟩
    have hstops : ¬∃ entries, records.mapM (keyed keys) = .ok entries := by
      intro hentries
      obtain ⟨entry, hentry⟩ := mapM_isOk_iff.mp hentries record hrecord
      obtain ⟨value, -, hvalue⟩ := exists_of_mem_forall₂ (keyed_eq_ok_iff.mp hentry).2.flip hkey
      rw [hlacks] at hvalue
      exact absurd hvalue (by simp)
    obtain ⟨defect, hdefect⟩ := exists_error_iff.mpr hstops
    obtain ⟨other, hother, hfailed⟩ := exists_mem_of_mapM_eq_error hdefect
    rw [keyed, bind_eq_error_iff] at hfailed
    simp only [pure_ne_error, and_false, exists_false, or_false] at hfailed
    obtain ⟨missing, hmissing, hlookup⟩ := exists_mem_of_mapM_eq_error hfailed
    obtain ⟨hmissing', rfl⟩ := lookupField_eq_error_iff.mp hlookup
    exact ⟨missing, hmissing, ⟨other, hother, hmissing'⟩, map_eq_error_iff.mpr hdefect⟩

/-- Four records, of which three have the same values: zeros of both signs, and one record twice. A
field that only some of them have cannot be grouped by. -/
theorem groupRecords_partitions_zeros :
    let plus : Attributes := ⟨[("x", .number .zero), ("y", .text "b")]⟩
    let digit : Attributes := ⟨[("x", .text "0"), ("y", .text "b"), ("z", .text "")]⟩
    let minus : Attributes := ⟨[("x", .number Binary64.zero.neg), ("y", .text "b")]⟩
    let records := [plus, digit, minus, plus]
    (∃ groups, groupRecords [⟨"d", "x"⟩, ⟨"d", "y"⟩] records = .ok groups ∧
      groups.map Group.members = [[plus, minus, plus], [digit]] ∧
      OrderedPartition [⟨"d", "x"⟩, ⟨"d", "y"⟩] records groups) ∧
    ∃ key ∈ [⟨"d", "x"⟩, ⟨"d", "z"⟩], (∃ record ∈ records, field? record key.field = none) ∧
      groupRecords [⟨"d", "x"⟩, ⟨"d", "z"⟩] records = .error (.noField key) := by
  intro plus digit minus records
  have hfields : ∀ record ∈ records, ∀ key ∈ ([⟨"d", "x"⟩, ⟨"d", "y"⟩] : List FieldKey),
      ∃ value, field? record key.field = some value := by
    have hsome : ∀ record ∈ records, ∀ key ∈ ([⟨"d", "x"⟩, ⟨"d", "y"⟩] : List FieldKey),
        (field? record key.field).isSome = true := by decide
    exact fun record hrecord key hkey => Option.isSome_iff_exists.mp (hsome record hrecord key hkey)
  constructor
  · obtain ⟨groups, hgroups, hpartition⟩ := (groupRecords_partitions _ records).1 hfields
    refine ⟨groups, hgroups, ?_, hpartition⟩
    have hmembers : (groupRecords [⟨"d", "x"⟩, ⟨"d", "y"⟩] records).map
        (fun groups => groups.map Group.members) = .ok [[plus, minus, plus], [digit]] := by
      decide +kernel
    rw [hgroups] at hmembers
    exact Except.ok.inj hmembers
  · exact (groupRecords_partitions [⟨"d", "x"⟩, ⟨"d", "z"⟩] records).2
      ⟨plus, by decide, ⟨"d", "z"⟩, by decide, by decide⟩

end Registrar
