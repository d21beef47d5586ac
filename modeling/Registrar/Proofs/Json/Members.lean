import Mathlib.Data.List.Permutation
import Registrar.Json.Basic

/-!
# Members by their names

Members of objects, datasets in memory and nodes of a disk are kept in lists of pairs and found by
`List.lookup`, which takes the first pair of a name.

## Main results

* `lookup_cons_eq_ite`, `lookup_filter_ne`, `lookup_insertMember`, `lookup_mapValues`,
  `lookup_sortMembers` — where the value of a name is found.
* `perm_pair_iff` — when an object has exactly two given members.
* `map_sortMembers_eq` — names in order are told by what names there are.
* `sortMembers_of_sorted`, `Sorted.forall₂`, `Sorted.ext` — members in order stay as they are, and
  are told by what is found under each name.
-/

namespace Registrar

variable {κ α : Type} [BEq κ] [LawfulBEq κ] [DecidableEq κ] {members : List (κ × α)}

theorem lookup_cons_eq_ite {name key : κ} {value : α} :
    ((key, value) :: members).lookup name = if name = key then some value
      else members.lookup name := by
  rw [List.lookup_cons]
  by_cases h : name = key
  · simp [h]
  · simp [h, beq_false_of_ne h]

theorem lookup_cons_eq_some_iff {name key : κ} {value a : α} :
    ((key, value) :: members).lookup name = some a ↔
      (name = key ∧ value = a) ∨ (name ≠ key ∧ members.lookup name = some a) := by
  rw [lookup_cons_eq_ite]
  split
  · next h => simp [h]
  · next h => simp [h]

/-- An object has exactly two given members if it has two members and these can be found. -/
theorem perm_pair_iff {x y : κ} {a b : α} (hxy : x ≠ y) :
    members.Perm [(x, a), (y, b)] ↔
      members.length = 2 ∧ members.lookup x = some a ∧ members.lookup y = some b := by
  rw [List.perm_pair]
  constructor
  · rintro (rfl | rfl)
    · simp [lookup_cons_eq_some_iff, hxy.symm]
    · simp [lookup_cons_eq_some_iff, hxy]
  · rintro ⟨hlength, hx, hy⟩
    match members, hlength with
    | [(x', a'), (y', b')], _ =>
      simp only [lookup_cons_eq_some_iff, List.lookup_nil, reduceCtorEq, and_false, or_false]
        at hx hy
      obtain ⟨rfl, rfl⟩ | ⟨hx, rfl, rfl⟩ := hx
      · obtain ⟨rfl, -⟩ | ⟨-, rfl, rfl⟩ := hy
        · exact absurd rfl hxy
        · exact .inl rfl
      · obtain ⟨rfl, rfl⟩ | ⟨-, rfl, -⟩ := hy
        · exact .inr rfl
        · exact absurd rfl hxy

/-! ### Taking members away -/

/-- The members whose name is not the given one. -/
theorem lookup_filter_ne {name removed : κ} :
    (members.filter fun member => member.1 ≠ removed).lookup name =
      if name = removed then none else members.lookup name := by
  induction members with
  | nil => simp
  | cons member members ih =>
    obtain ⟨key, value⟩ := member
    by_cases hkey : key = removed
    · rw [List.filter_cons_of_neg (by simp [hkey]), ih, lookup_cons_eq_ite]
      by_cases hname : name = removed
      · rw [if_pos hname, if_pos hname]
      · rw [if_neg hname, if_neg hname, if_neg fun h => hname (h.trans hkey)]
    · rw [List.filter_cons_of_pos (by simp [hkey]), lookup_cons_eq_ite, lookup_cons_eq_ite, ih]
      by_cases hname : name = key
      · rw [if_pos hname, if_pos hname, if_neg fun h => hkey (hname.symm.trans h)]
      · rw [if_neg hname, if_neg hname]

omit [DecidableEq κ] in
theorem mem_names_iff {name : κ} : name ∈ members.map Prod.fst ↔ (members.lookup name).isSome := by
  rw [List.lookup_isSome_iff, List.mem_map]
  constructor
  · rintro ⟨member, hmember, rfl⟩
    exact ⟨member, hmember, BEq.rfl⟩
  · rintro ⟨member, hmember, hname⟩
    exact ⟨member, hmember, (eq_of_beq hname).symm⟩

/-- A value is found under its name if no name stands twice. -/
theorem lookup_of_mem (hnodup : (members.map Prod.fst).Nodup) {name : κ} {value : α}
    (h : (name, value) ∈ members) : members.lookup name = some value := by
  induction members with
  | nil => cases h
  | cons member members ih =>
    obtain ⟨key, other⟩ := member
    obtain ⟨hkey, hnodup⟩ := List.nodup_cons.mp hnodup
    rw [lookup_cons_eq_ite]
    obtain heq | hmem := List.mem_cons.mp h
    · cases heq
      rw [if_pos rfl]
    · have hne : name ≠ key := by
        rintro rfl
        exact hkey (List.mem_map.mpr ⟨(name, value), hmem, rfl⟩)
      rw [if_neg hne, ih hnodup hmem]

/-! ### Members in order -/

namespace Json

variable {β : Type} {sorted : List (String × β)}

/-- A value that is made from the one that was there is found in its place. -/
theorem lookup_mapValues {γ : Type} (f : String → β → γ) (members : List (String × β))
    (name : String) :
    (members.map fun member => (member.1, f member.1 member.2)).lookup name =
      (members.lookup name).map (f name) := by
  induction members with
  | nil => rfl
  | cons member members ih =>
    rw [List.map_cons, lookup_cons_eq_ite, lookup_cons_eq_ite, ih]
    split
    · next h => rw [h, Option.map_some]
    · rfl

theorem lookup_insertMember {name key : String} {value : β} :
    (insertMember name value sorted).lookup key =
      if key = name then some value else sorted.lookup key := by
  induction sorted with
  | nil => rw [insertMember, lookup_cons_eq_ite]
  | cons member sorted ih =>
    obtain ⟨other, kept⟩ := member
    rw [insertMember]
    split
    · rw [lookup_cons_eq_ite]
    split
    · next heq =>
      subst heq
      rw [lookup_cons_eq_ite, lookup_cons_eq_ite]
      split <;> rfl
    · next hne =>
      rw [lookup_cons_eq_ite, lookup_cons_eq_ite, ih]
      by_cases hkey : key = other
      · rw [if_pos hkey, if_pos hkey, if_neg fun h => hne (h.symm.trans hkey)]
      · rw [if_neg hkey, if_neg hkey]

theorem mem_insertMember_iff {name key : String} {value : β} :
    key ∈ (insertMember name value sorted).map Prod.fst ↔
      key = name ∨ key ∈ sorted.map Prod.fst := by
  rw [mem_names_iff, mem_names_iff, lookup_insertMember]
  by_cases h : key = name
  · simp [h]
  · simp [h]

/-- The names are in increasing order, each once. -/
def Sorted (members : List (String × β)) : Prop :=
  (members.map Prod.fst).Pairwise (· < ·)

theorem nodup_of_increasing {names : List String} (h : names.Pairwise (· < ·)) : names.Nodup := by
  refine List.Pairwise.imp (fun {a b} hlt => ?_) h
  rintro rfl
  exact String.lt_irrefl a hlt

theorem sorted_insertMember (name : String) (value : β) (h : Sorted sorted) :
    Sorted (insertMember name value sorted) := by
  induction sorted with
  | nil => exact List.pairwise_singleton _ _
  | cons member sorted ih =>
    obtain ⟨other, kept⟩ := member
    obtain ⟨hother, hrest⟩ := List.pairwise_cons.mp h
    rw [insertMember]
    split
    · next hlt =>
      refine List.pairwise_cons.mpr ⟨fun key hkey => ?_, h⟩
      obtain rfl | hkey := List.mem_cons.mp hkey
      · exact hlt
      · exact String.lt_trans hlt (hother key hkey)
    split
    · next heq =>
      subst heq
      exact h
    · next hlt hne =>
      refine List.pairwise_cons.mpr ⟨fun key hkey => ?_, ih hrest⟩
      obtain rfl | hkey := mem_insertMember_iff.mp hkey
      · exact Std.lt_of_le_of_ne (Std.not_lt.mp hlt) (Ne.symm hne)
      · exact hother key hkey

/-- Putting members in their places one by one keeps the order and adds their names. -/
theorem foldl_insertMember (members : List (String × β)) {sorted : List (String × β)}
    (h : Sorted sorted) :
    Sorted (members.foldl (fun sorted member => insertMember member.1 member.2 sorted) sorted) ∧
      ∀ key, key ∈ (members.foldl (fun sorted member => insertMember member.1 member.2 sorted)
        sorted).map Prod.fst ↔ key ∈ sorted.map Prod.fst ∨ key ∈ members.map Prod.fst := by
  induction members generalizing sorted with
  | nil => exact ⟨h, fun key => by simp⟩
  | cons member members ih =>
    obtain ⟨hsorted, hnames⟩ := ih (sorted_insertMember member.1 member.2 h)
    refine ⟨hsorted, fun key => ?_⟩
    rw [List.foldl_cons, hnames, mem_insertMember_iff, List.map_cons, List.mem_cons, or_assoc,
      or_left_comm]

theorem sorted_nil : Sorted ([] : List (String × β)) :=
  List.Pairwise.nil

theorem sorted_sortMembers (members : List (String × β)) : Sorted (sortMembers members) :=
  (foldl_insertMember members sorted_nil).1

/-- What is put in its place is found, and else what was there before, if no name stands twice. -/
theorem lookup_foldl_insertMember {members : List (String × β)}
    (hnodup : (members.map Prod.fst).Nodup) {name : String} :
    (members.foldl (fun sorted member => insertMember member.1 member.2 sorted) sorted).lookup
      name = (members.lookup name).or (sorted.lookup name) := by
  induction members generalizing sorted with
  | nil => rfl
  | cons member members ih =>
    obtain ⟨key, value⟩ := member
    obtain ⟨hkey, hnodup⟩ := List.nodup_cons.mp hnodup
    rw [List.foldl_cons, ih hnodup, lookup_insertMember, lookup_cons_eq_ite]
    by_cases hname : name = key
    · have hnone : members.lookup name = none := by
        rw [← Option.not_isSome_iff_eq_none, ← mem_names_iff, hname]
        exact hkey
      rw [if_pos hname, if_pos hname, hnone, Option.none_or, Option.some_or]
    · rw [if_neg hname, if_neg hname]

theorem lookup_sortMembers {members : List (String × β)}
    (hnodup : (members.map Prod.fst).Nodup) {name : String} :
    (sortMembers members).lookup name = members.lookup name :=
  (lookup_foldl_insertMember hnodup).trans Option.or_none

theorem mem_map_sortMembers {members : List (String × β)} {key : String} :
    key ∈ (sortMembers members).map Prod.fst ↔ key ∈ members.map Prod.fst :=
  ((foldl_insertMember members sorted_nil).2 key).trans (by simp)

/-- Names in order are told by what names there are. -/
theorem map_sortMembers_eq {members : List (String × β)} {names : List String}
    (hsorted : names.Pairwise (· < ·)) (hnames : ∀ key, key ∈ names ↔ key ∈ members.map Prod.fst) :
    (sortMembers members).map Prod.fst = names := by
  have hsorted' := sorted_sortMembers members
  have hperm : ((sortMembers members).map Prod.fst).Perm names := by
    refine (List.perm_ext_iff_of_nodup (nodup_of_increasing hsorted')
      (nodup_of_increasing hsorted)).mpr fun key => ?_
    rw [hnames, mem_map_sortMembers]
  exact hperm.eq_of_pairwise (fun a b _ _ hab hba => absurd hba (String.lt_asymm hab)) hsorted'
    hsorted

/-- A name after all others goes to the end. -/
theorem insertMember_of_lt {name : String} (value : β)
    (h : ∀ key ∈ sorted.map Prod.fst, key < name) :
    insertMember name value sorted = sorted ++ [(name, value)] := by
  induction sorted with
  | nil => rfl
  | cons member sorted ih =>
    obtain ⟨other, kept⟩ := member
    obtain ⟨hother, hrest⟩ := List.forall_mem_cons.mp h
    have hne : name ≠ other := fun heq => String.lt_irrefl name (heq ▸ hother)
    rw [insertMember, if_neg (String.lt_asymm hother), if_neg hne, ih hrest]
    rfl

/-- Members in order stay as they are. -/
theorem sortMembers_of_sorted {members : List (String × β)} (h : Sorted members) :
    sortMembers members = members := by
  have hfold : ∀ (rest done : List (String × β)), Sorted (done ++ rest) →
      rest.foldl (fun sorted member => insertMember member.1 member.2 sorted) done =
        done ++ rest := by
    intro rest
    induction rest with
    | nil => exact fun done _ => (List.append_nil done).symm
    | cons member rest ih =>
      intro done hsorted
      have hparts := hsorted
      rw [Sorted, List.map_append] at hparts
      have hlt : ∀ key ∈ done.map Prod.fst, key < member.1 := fun key hkey =>
        (List.pairwise_append.mp hparts).2.2 key hkey member.1 List.mem_cons_self
      rw [List.foldl_cons, insertMember_of_lt member.2 hlt, ih, List.append_assoc]
      · rfl
      · rwa [List.append_assoc]
  exact hfold members [] h

theorem lookup_eq_none_of_lt {name : String} (h : ∀ key ∈ sorted.map Prod.fst, name < key) :
    sorted.lookup name = none :=
  Option.not_isSome_iff_eq_none.mp fun hsome =>
    String.lt_irrefl name (h name (mem_names_iff.mpr hsome))

theorem mem_names_congr {r : β → β → Prop} {members members' : List (String × β)}
    (hlookup : ∀ key, Option.Rel r (members.lookup key) (members'.lookup key)) (key : String) :
    key ∈ members.map Prod.fst ↔ key ∈ members'.map Prod.fst := by
  rw [mem_names_iff, mem_names_iff]
  have hkey := hlookup key
  generalize members.lookup key = value, members'.lookup key = value' at hkey
  cases hkey <;> rfl

/-- Members in order are related one by one if what is found under each name is. -/
theorem Sorted.forall₂ {r : β → β → Prop} {members members' : List (String × β)}
    (h : Sorted members) (h' : Sorted members')
    (hlookup : ∀ key, Option.Rel r (members.lookup key) (members'.lookup key)) :
    List.Forall₂ (fun member member' => member.1 = member'.1 ∧ r member.2 member'.2) members
      members' := by
  induction members generalizing members' with
  | nil =>
    cases members' with
    | nil => exact .nil
    | cons member' members' => cases (mem_names_congr hlookup member'.1).mpr List.mem_cons_self
  | cons member members ih =>
    cases members' with
    | nil => cases (mem_names_congr hlookup member.1).mp List.mem_cons_self
    | cons member' members' =>
      obtain ⟨name, value⟩ := member
      obtain ⟨name', value'⟩ := member'
      have hmem := mem_names_congr hlookup
      obtain ⟨hless, hrest⟩ := List.pairwise_cons.mp h
      obtain ⟨hless', hrest'⟩ := List.pairwise_cons.mp h'
      have hname : name = name' := by
        obtain heq | hin := List.mem_cons.mp ((hmem name).mp List.mem_cons_self)
        · exact heq
        obtain heq | hin' := List.mem_cons.mp ((hmem name').mpr List.mem_cons_self)
        · exact heq.symm
        · exact absurd (hless name' hin') (String.lt_asymm (hless' name hin))
      subst hname
      have hvalue := hlookup name
      rw [lookup_cons_eq_ite, lookup_cons_eq_ite, if_pos rfl, if_pos rfl] at hvalue
      have hothers (key : String) : Option.Rel r (members.lookup key) (members'.lookup key) := by
        by_cases hkey : key = name
        · rw [hkey, lookup_eq_none_of_lt hless, lookup_eq_none_of_lt hless']
          exact .none
        · have hkeep := hlookup key
          rwa [lookup_cons_eq_ite, lookup_cons_eq_ite, if_neg hkey, if_neg hkey] at hkeep
      cases hvalue with
      | some hvalue => exact .cons ⟨rfl, hvalue⟩ (ih hrest hrest' hothers)

/-- Members in order are told by what is found under each name. -/
theorem Sorted.ext {members members' : List (String × β)} (h : Sorted members)
    (h' : Sorted members') (hlookup : ∀ key, members.lookup key = members'.lookup key) :
    members = members' := by
  rw [← List.forall₂_eq_eq_eq]
  refine (h.forall₂ (r := Eq) h' fun key => ?_).imp fun _ _ h => Prod.ext h.1 h.2
  rw [hlookup key]
  cases members'.lookup key with
  | none => exact .none
  | some value => exact .some rfl

theorem of_mem_insertMember {name : String} {value : β} {entry : String × β}
    (h : entry ∈ insertMember name value sorted) : entry = (name, value) ∨ entry ∈ sorted := by
  induction sorted with
  | nil => exact .inl (List.mem_singleton.mp h)
  | cons member sorted ih =>
    obtain ⟨other, kept⟩ := member
    rw [insertMember] at h
    split at h
    · exact List.mem_cons.mp h
    split at h
    · exact (List.mem_cons.mp h).imp_right (List.mem_cons_of_mem _)
    · obtain rfl | h := List.mem_cons.mp h
      · exact .inr List.mem_cons_self
      · exact (ih h).imp_right (List.mem_cons_of_mem _)

theorem of_mem_sortMembers {members : List (String × β)} {entry : String × β}
    (h : entry ∈ sortMembers members) : entry ∈ members := by
  have hfold : ∀ (rest done : List (String × β)),
      entry ∈ rest.foldl (fun sorted member => insertMember member.1 member.2 sorted) done →
        entry ∈ done ∨ entry ∈ rest := by
    intro rest
    induction rest with
    | nil => exact fun done hentry => .inl hentry
    | cons member rest ih =>
      intro done hentry
      obtain hdone | hrest := ih _ hentry
      · obtain rfl | hdone := of_mem_insertMember hdone
        · exact .inr List.mem_cons_self
        · exact .inl hdone
      · exact .inr (List.mem_cons_of_mem member hrest)
  exact (hfold members [] h).resolve_left List.not_mem_nil

end Json

end Registrar
