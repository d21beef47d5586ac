import Mathlib.Data.List.Induction
import Mathlib.Data.List.TakeWhile
import Registrar.Query.Sorting

/-!
# Sorting

Whatever items are compared by, and whether or not the comparison is an order, sorting only changes
where they stand, and items that may stand in the order they have keep it. If the comparison is an
order on the items, then a sorted list is in order.

An order need not tell all items apart, and it need not be one on all values of the type: rows are
ordered only if they have the sort columns. So `IsWeakOrder` speaks of the items of a list.

## Main definitions

* `IsWeakOrder` — a comparison is an order on the items of a list.
* `Order.less` — how rows are compared.

## Main results

* `insertionSort_perm` — a sorted list has the items of the list.
* `pairwise_insertionSort` — it is in order.
* `sublist_insertionSort` — items that may stand in their order stay in it.
* `sortRows_perm` — sorted rows are the rows.
-/

namespace Registrar

section

variable {α : Type} (less : α → α → Bool)

theorem insertBack_perm (item : α) (sorted : List α) :
    (insertBack less item sorted).Perm (item :: sorted) := by
  induction sorted with
  | nil => exact List.Perm.refl [item]
  | cons last rest ih =>
    rw [insertBack]
    split
    · exact (ih.cons last).trans (List.Perm.swap item last rest)
    · exact List.Perm.refl _

theorem insertionSort_perm (items : List α) : (insertionSort less items).Perm items := by
  -- The items go in one by one, so those that are already in are part of the statement.
  have hfold : ∀ sorted, (items.foldl (fun sorted item => insertBack less item sorted) sorted).Perm
      (items ++ sorted) := by
    induction items with
    | nil => exact fun sorted => List.Perm.refl sorted
    | cons item items ih =>
      intro sorted
      rw [List.foldl_cons]
      exact (ih _).trans (((insertBack_perm less item sorted).append_left items).trans
        List.perm_middle)
  have hsorted := hfold []
  rw [List.append_nil] at hsorted
  exact (List.reverse_perm _).trans hsorted

end

/-! ### Order -/

section

variable {α β : Type} {less : α → α → Bool} {items : List α}

/-- On the items of a list, of two items at most one is less than the other, and not being less
passes on. Then `less b a = false` says that `a` may stand before `b`. -/
structure IsWeakOrder (less : α → α → Bool) (items : List α) : Prop where
  asymm : ∀ a ∈ items, ∀ b ∈ items, less a b = true → less b a = false
  trans : ∀ a ∈ items, ∀ b ∈ items, ∀ c ∈ items,
    less b a = false → less c b = false → less c a = false

theorem IsWeakOrder.subset {items' : List α} (h : IsWeakOrder less items) (hsub : items' ⊆ items) :
    IsWeakOrder less items' :=
  ⟨fun a ha b hb => h.asymm a (hsub ha) b (hsub hb),
    fun a ha b hb c hc => h.trans a (hsub ha) b (hsub hb) c (hsub hc)⟩

theorem insertBack_eq (item : α) (sorted : List α) :
    insertBack less item sorted =
      sorted.takeWhile (less item) ++ item :: sorted.dropWhile (less item) := by
  induction sorted with
  | nil => rfl
  | cons last rest ih =>
    rw [insertBack, List.takeWhile_cons, List.dropWhile_cons]
    split
    · rw [ih, List.cons_append]
    · rfl

theorem insertionSort_append_singleton (less : α → α → Bool) (items : List α) (item : α) :
    insertionSort less (items ++ [item]) =
      (insertBack less item (insertionSort less items).reverse).reverse := by
  rw [insertionSort, insertionSort, List.foldl_append, List.reverse_reverse]
  rfl

/-- What one more item does to a sorted list: it goes in front of items that it is less than, and
either to the front of all or right behind one that it is not less than. -/
theorem insertionSort_concat (less : α → α → Bool) (items : List α) (item : α) :
    ∃ before after, insertionSort less items = before ++ after ∧
      insertionSort less (items ++ [item]) = before ++ item :: after ∧
      (∀ later ∈ after, less item later = true) ∧
      (before = [] ∨ ∃ front last, before = front ++ [last] ∧ less item last = false) := by
  rw [insertionSort_append_singleton]
  generalize insertionSort less items = sorted
  refine ⟨(sorted.reverse.dropWhile (less item)).reverse,
    (sorted.reverse.takeWhile (less item)).reverse, ?_, ?_, ?_, ?_⟩
  · rw [← List.reverse_append, List.takeWhile_append_dropWhile, List.reverse_reverse]
  · rw [insertBack_eq, List.reverse_append, List.reverse_cons, List.append_assoc,
      List.singleton_append]
  · intro later hlater
    exact List.mem_takeWhile_imp (List.mem_reverse.mp hlater)
  · cases hrest : sorted.reverse.dropWhile (less item) with
    | nil => exact .inl rfl
    | cons last rest =>
      have hlast := List.head?_dropWhile_not (less item) sorted.reverse
      rw [hrest] at hlast
      exact .inr ⟨rest.reverse, last, List.reverse_cons, by simpa using hlast⟩

theorem pairwise_insertionSort (h : IsWeakOrder less items) :
    (insertionSort less items).Pairwise fun a b => less b a = false := by
  induction items using List.reverseRecOn with
  | nil => exact .nil
  | append_singleton items item ih =>
    have hsorted := ih (h.subset (List.subset_append_left _ _))
    have hperm := insertionSort_perm less (items ++ [item])
    obtain ⟨before, after, hold, hnew, hafter, hbefore⟩ := insertionSort_concat less items item
    rw [hnew] at hperm ⊢
    replace h := h.subset hperm.subset
    rw [hold, List.pairwise_append] at hsorted
    obtain ⟨hfront, hrest, hcross⟩ := hsorted
    have hitem : ∀ earlier ∈ before, less item earlier = false := by
      obtain rfl | ⟨front, last, rfl, hlast⟩ := hbefore
      · exact fun earlier hearlier => absurd hearlier List.not_mem_nil
      · intro earlier hearlier
        obtain hearlier | hearlier := List.mem_append.mp hearlier
        · exact h.trans earlier (by simp [hearlier]) last (by simp) item (by simp)
            ((List.pairwise_append.mp hfront).2.2 earlier hearlier last (by simp)) hlast
        · rwa [List.mem_singleton.mp hearlier]
    rw [List.pairwise_append, List.pairwise_cons]
    refine ⟨hfront, ⟨fun later hlater => ?_, hrest⟩, fun earlier hearlier other hother => ?_⟩
    · exact h.asymm item (by simp) later (by simp [hlater]) (hafter later hlater)
    · obtain rfl | hother := List.mem_cons.mp hother
      · exact hitem earlier hearlier
      · exact hcross earlier hearlier other hother

/-- **Items that may stand in their order stay in it.** -/
theorem sublist_insertionSort {part : List α} (hpart : part.Sublist items)
    (hordered : part.Pairwise fun a b => less b a = false) :
    part.Sublist (insertionSort less items) := by
  induction items using List.reverseRecOn generalizing part with
  | nil => exact hpart
  | append_singleton items item ih =>
    obtain ⟨before, after, hold, hnew, hafter, -⟩ := insertionSort_concat less items item
    rw [hold] at ih
    rw [hnew]
    obtain ⟨first, last, rfl, hfirst, hlast⟩ := List.sublist_append_iff.mp hpart
    obtain ⟨hordered, -, hcross⟩ := List.pairwise_append.mp hordered
    have hplaced := ih hfirst hordered
    cases hlast with
    | cons _ hlast =>
      obtain rfl := List.sublist_nil.mp hlast
      rw [List.append_nil]
      exact hplaced.trans ((List.sublist_cons_self item after).append_left before)
    | cons_cons _ hlast =>
      -- What is behind the item is greater, so nothing that may stand before it is there.
      obtain ⟨front, rest, rfl, hfront, hrest⟩ := List.sublist_append_iff.mp hplaced
      obtain rfl : rest = [] := by
        refine List.eq_nil_iff_forall_not_mem.mpr fun other hother => ?_
        have htrue := hafter other (hrest.subset hother)
        rw [hcross other (by simp [hother]) item (by simp)] at htrue
        cases htrue
      rw [List.append_nil]
      exact hfront.append (hlast.trans (List.nil_sublist after) |>.cons_cons item)

theorem insertionSort_eq_self (hordered : items.Pairwise fun a b => less b a = false) :
    insertionSort less items = items :=
  ((sublist_insertionSort (.refl items) hordered).eq_of_length
    (insertionSort_perm less items).length_eq.symm).symm

theorem insertBack_map (f : β → α) (item : β) (sorted : List β) :
    insertBack less (f item) (sorted.map f) =
      (insertBack (fun a b => less (f a) (f b)) item sorted).map f := by
  induction sorted with
  | nil => rfl
  | cons last rest ih =>
    rw [List.map_cons, insertBack, insertBack, ih, apply_ite (List.map f)]
    rfl

/-- Items may be sorted by what is computed from them. -/
theorem insertionSort_map (f : β → α) (items : List β) :
    insertionSort less (items.map f) =
      (insertionSort (fun a b => less (f a) (f b)) items).map f := by
  induction items using List.reverseRecOn with
  | nil => rfl
  | append_singleton items item ih =>
    rw [List.map_append, List.map_singleton, insertionSort_append_singleton,
      insertionSort_append_singleton, ih, ← List.map_reverse, insertBack_map, List.map_reverse]

end

/-! ### Rows -/

/-- **Sorting only changes where rows stand.** -/
theorem sortRows_perm (order : Order) (rows : List Row) : (sortRows order rows).Perm rows := by
  have hsorted := (insertionSort_perm (fun a b => compareKeys order.direction a.1 b.1 == .lt)
    (rows.map fun row => (order.keys.map row.get?, row))).map Prod.snd
  rw [List.map_map] at hsorted
  exact hsorted.trans (by rw [show (Prod.snd ∘ fun row : Row => (order.keys.map row.get?, row)) = id
    from rfl, List.map_id])

/-- Whether a row has to stand before another one. -/
def Order.less (order : Order) (a b : Row) : Bool :=
  compareKeys order.direction (order.keys.map a.get?) (order.keys.map b.get?) == .lt

/-- The values in the sort columns, which are looked up once for each row, are those of the row. -/
theorem sortRows_eq (order : Order) (rows : List Row) :
    sortRows order rows = insertionSort order.less rows := by
  rw [sortRows, insertionSort_map, List.map_map]
  exact List.map_id _

end Registrar
