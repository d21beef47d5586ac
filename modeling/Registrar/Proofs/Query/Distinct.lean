import Mathlib.Data.Finset.Card
import Mathlib.Data.List.Nodup
import Registrar.Query.Distinct

/-!
# First occurrences, characterised

Keeping the first occurrences loses no image and repeats none, and what is kept stays in order. The
list of images already seen is part of every statement, because the recursion lengthens it.

## Main results

* `firstsBy_sublist` — what is kept stays in order.
* `mem_map_firstsBy` — no image is lost.
* `nodup_map_firstsBy` — no image is kept twice.
* `firstsBy_filter` — images may be dropped before or after.
* `find?_of_mem_firstsBy` — what is kept is the first of its image.
* `map_firstsBy` — the images that are kept, as a list.
-/

namespace Registrar

variable {α β : Type} [DecidableEq β] {image : α → β}

theorem firstsBy_cons (image : α → β) (seen : List β) (item : α) (items : List α) :
    firstsBy image seen (item :: items) = if image item ∈ seen then firstsBy image seen items
      else item :: firstsBy image (image item :: seen) items := by
  rw [firstsBy]
  simp only [List.contains_iff_mem]

theorem firstsBy_sublist (image : α → β) (seen : List β) (items : List α) :
    (firstsBy image seen items).Sublist items := by
  induction items generalizing seen with
  | nil => exact List.Sublist.refl []
  | cons item items ih =>
    rw [firstsBy_cons]
    split
    · exact (ih seen).cons item
    · exact (ih (image item :: seen)).cons_cons item

/-- The images that are kept are those that occur and were not seen before. -/
theorem mem_map_firstsBy {seen : List β} {items : List α} {b : β} :
    b ∈ (firstsBy image seen items).map image ↔ b ∈ items.map image ∧ b ∉ seen := by
  induction items generalizing seen with
  | nil => simp [firstsBy]
  | cons item items ih =>
    rw [firstsBy_cons, List.map_cons, List.mem_cons]
    split
    · next hseen =>
      rw [ih]
      constructor
      · rintro ⟨hb, hn⟩
        exact ⟨.inr hb, hn⟩
      · rintro ⟨rfl | hb, hn⟩
        · exact absurd hseen hn
        · exact ⟨hb, hn⟩
    · next hseen =>
      rw [List.map_cons, List.mem_cons, ih, List.mem_cons]
      by_cases hb : b = image item
      · subst hb
        simp [hseen]
      · simp [hb]

/-- One more item is kept if its image is new. -/
theorem firstsBy_concat (image : α → β) (seen : List β) (items : List α) (item : α) :
    firstsBy image seen (items ++ [item]) = firstsBy image seen items ++
      if image item ∈ seen ∨ image item ∈ items.map image then [] else [item] := by
  induction items generalizing seen with
  | nil =>
    rw [List.nil_append, firstsBy_cons]
    simp [firstsBy]
  | cons first items ih =>
    rw [List.cons_append, firstsBy_cons, firstsBy_cons, ih, ih, List.map_cons]
    split
    · next hseen =>
      have hfirst : image item = image first → image item ∈ seen := fun h => h ▸ hseen
      congr 2
      simp only [List.mem_cons, eq_iff_iff]
      tauto
    · rw [List.cons_append]
      congr 3
      simp only [List.mem_cons, eq_iff_iff]
      tauto

theorem nodup_map_firstsBy (image : α → β) (seen : List β) (items : List α) :
    ((firstsBy image seen items).map image).Nodup := by
  induction items generalizing seen with
  | nil => simp [firstsBy]
  | cons item items ih =>
    rw [firstsBy_cons]
    split
    · exact ih seen
    · rw [List.map_cons, List.nodup_cons]
      refine ⟨fun h => ?_, ih _⟩
      exact (mem_map_firstsBy.mp h).2 List.mem_cons_self

/-- What is kept depends only on which of the images that occur were seen. -/
theorem firstsBy_congr {seen seen' : List β} {items : List α}
    (h : ∀ item ∈ items, image item ∈ seen ↔ image item ∈ seen') :
    firstsBy image seen items = firstsBy image seen' items := by
  induction items generalizing seen seen' with
  | nil => rfl
  | cons item items ih =>
    obtain ⟨hitem, hitems⟩ := List.forall_mem_cons.mp h
    have hnext : ∀ other ∈ items,
        image other ∈ image item :: seen ↔ image other ∈ image item :: seen' := by
      intro other hother
      rw [List.mem_cons, List.mem_cons, hitems other hother]
    simp only [firstsBy_cons, hitem, ih hitems, ih hnext]

/-- Keeping the first occurrences and dropping some images can be done in either order. -/
theorem firstsBy_filter (image : α → β) (keep : β → Bool) (seen : List β) (items : List α) :
    firstsBy image seen (items.filter fun item => keep (image item)) =
      (firstsBy image seen items).filter fun item => keep (image item) := by
  induction items generalizing seen with
  | nil => rfl
  | cons item items ih =>
    rw [List.filter_cons, firstsBy_cons]
    by_cases hkeep : keep (image item) = true
    · rw [if_pos hkeep, firstsBy_cons, ih, ih]
      split
      · rfl
      · rw [List.filter_cons, if_pos hkeep]
    · rw [if_neg hkeep]
      split
      · exact ih seen
      · -- The image is dropped, so that it makes no difference whether it was seen.
        rw [List.filter_cons, if_neg hkeep, ← ih]
        refine firstsBy_congr fun other hother => ?_
        have hother : keep (image other) = true := (List.mem_filter.mp hother).2
        have hne : image other ≠ image item := fun heq => hkeep (heq ▸ hother)
        rw [List.mem_cons, or_iff_right hne]

/-- What is kept is the first item of its image. -/
theorem find?_of_mem_firstsBy {seen : List β} {items : List α} {item : α}
    (h : item ∈ firstsBy image seen items) :
    items.find? (fun other => image other = image item) = some item := by
  induction items generalizing seen with
  | nil => exact absurd h List.not_mem_nil
  | cons first items ih =>
    have hskip {seen' : List β} (hfirst : image first ∈ seen')
        (hrest : item ∈ firstsBy image seen' items) :
        (first :: items).find? (fun other => image other = image item) = some item := by
      have hfresh := (mem_map_firstsBy.mp (List.mem_map_of_mem (f := image) hrest)).2
      rw [List.find?_cons_of_neg (by simpa using ne_of_mem_of_not_mem hfirst hfresh), ih hrest]
    rw [firstsBy_cons] at h
    split at h
    · next hseen => exact hskip hseen h
    · obtain rfl | h := List.mem_cons.mp h
      · exact List.find?_cons_of_pos (by simp)
      · exact hskip List.mem_cons_self h

/-! ### Distinct images -/

variable [BEq β] [LawfulBEq β]

/-- The images that are kept, in order. -/
theorem map_firstsBy (image : α → β) (seen : List β) (items : List α) :
    (firstsBy image seen items).map image =
      ((items.map image).filter fun b => decide (b ∉ seen)).eraseDups := by
  induction items generalizing seen with
  | nil => rfl
  | cons item items ih =>
    rw [firstsBy_cons, List.map_cons]
    split
    · next h => rw [List.filter_cons_of_neg (by simpa using h), ih]
    · next h =>
      rw [List.filter_cons_of_pos (by simpa using h), List.map_cons, ih, List.eraseDups_cons,
        List.filter_filter]
      refine congrArg (fun images => image item :: List.eraseDups images) (List.filter_congr ?_)
      intro b _
      rw [Bool.eq_iff_iff]
      simp [List.mem_cons]

theorem map_firstsBy_nil (image : α → β) (items : List α) :
    (firstsBy image [] items).map image = (items.map image).eraseDups := by
  rw [map_firstsBy]
  exact congrArg List.eraseDups (List.filter_eq_self.mpr fun _ _ => by simp)

theorem nodup_eraseDups (items : List β) : items.eraseDups.Nodup := by
  have h := nodup_map_firstsBy id [] items
  rwa [map_firstsBy_nil, List.map_id] at h

/-- Distinct items are as many as the set of all items has. -/
theorem length_eraseDups (items : List β) : items.eraseDups.length = items.toFinset.card := by
  rw [← List.toFinset_card_of_nodup (nodup_eraseDups items)]
  refine congrArg Finset.card (Finset.ext fun item => ?_)
  rw [List.mem_toFinset, List.mem_toFinset, List.mem_eraseDups]

end Registrar
