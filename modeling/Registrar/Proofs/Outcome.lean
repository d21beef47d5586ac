import Mathlib.Data.List.Forall2

/-!
# Outcomes of readers

Readers, filters and aggregates run in `Except`: the first failure ends them. The lemmas here open
such a chain. Each says when a step succeeds in terms of the steps below it, so that proofs about a
reader never look into the monad.

## Main results

* `bind_eq_ok_iff`, `map_eq_ok_iff` — when a step after another succeeds.
* `mapM_eq_ok_iff` — a list is read item by item.
* `mapM_isOk_iff` — a list can be read exactly when every item can.
-/

namespace Registrar

variable {ε α β : Type}

/-! ### One step after another -/

@[simp] theorem bind_ok {a : α} {f : α → Except ε β} : (Except.ok a >>= f) = f a :=
  rfl

@[simp] theorem bind_eq_ok_iff {x : Except ε α} {f : α → Except ε β} {b : β} :
    (x >>= f) = .ok b ↔ ∃ a, x = .ok a ∧ f a = .ok b := by
  cases x <;> simp [bind, Except.bind]

@[simp] theorem bind_eq_error_iff {x : Except ε α} {f : α → Except ε β} {e : ε} :
    (x >>= f) = .error e ↔ x = .error e ∨ ∃ a, x = .ok a ∧ f a = .error e := by
  cases x <;> simp [bind, Except.bind]

/-- What comes after a step succeeds if it succeeds wherever the step can lead. -/
theorem exists_bind_eq_ok {x : Except ε α} {f : α → Except ε β} {P : α → Prop}
    (hx : ∃ a, x = .ok a ∧ P a) (hf : ∀ a, P a → ∃ b, f a = .ok b) : ∃ b, (x >>= f) = .ok b := by
  obtain ⟨a, rfl, ha⟩ := hx
  exact hf a ha

@[simp] theorem map_eq_ok_iff {x : Except ε α} {f : α → β} {b : β} :
    x.map f = .ok b ↔ ∃ a, x = .ok a ∧ f a = b := by
  cases x <;> simp [Except.map]

@[simp] theorem fmap_eq_ok_iff {x : Except ε α} {f : α → β} {b : β} :
    f <$> x = .ok b ↔ ∃ a, x = .ok a ∧ f a = b :=
  map_eq_ok_iff

@[simp] theorem map_eq_error_iff {x : Except ε α} {f : α → β} {e : ε} :
    x.map f = .error e ↔ x = .error e := by
  cases x <;> simp [Except.map]

@[simp] theorem mapError_eq_ok_iff {δ : Type} {x : Except ε α} {f : ε → δ} {a : α} :
    x.mapError f = .ok a ↔ x = .ok a := by
  cases x <;> simp [Except.mapError]

@[simp] theorem mapError_eq_error_iff {δ : Type} {x : Except ε α} {f : ε → δ} {d : δ} :
    x.mapError f = .error d ↔ ∃ e, x = .error e ∧ f e = d := by
  cases x <;> simp [Except.mapError]

@[simp] theorem pure_eq_ok_iff {a b : α} : (pure a : Except ε α) = .ok b ↔ a = b := by
  simp [pure, Except.pure]

@[simp] theorem pure_ne_error {a : α} {e : ε} : (pure a : Except ε α) ≠ .error e := by
  simp [pure, Except.pure]

@[simp] theorem throw_ne_ok {e : ε} {a : α} : (throw e : Except ε α) ≠ .ok a := by
  simp [throw, throwThe, MonadExceptOf.throw]

/-- A check that throws is passed exactly if its condition does not hold. -/
theorem check_eq_ok_iff {c : Prop} [Decidable c] {e : ε} {rest : α → Except ε β}
    {next : Except ε β} {b : β} :
    (if c then throw e >>= rest else next) = .ok b ↔ ¬c ∧ next = .ok b := by
  split
  · next h => simp [h]
  · next h => simp [h]

/-- A step fails exactly if it does not succeed. -/
theorem exists_error_iff {x : Except ε α} : (∃ e, x = .error e) ↔ ¬∃ a, x = .ok a := by
  cases x <;> simp

/-! ### Lists -/

/-- A list is read item by item, in order. -/
theorem mapM_eq_ok_iff {f : α → Except ε β} {xs : List α} {ys : List β} :
    xs.mapM f = .ok ys ↔ List.Forall₂ (fun x y => f x = .ok y) xs ys := by
  induction xs generalizing ys with
  | nil =>
    rw [List.mapM_nil, pure_eq_ok_iff, List.forall₂_nil_left_iff]
    exact eq_comm
  | cons x xs ih =>
    rw [List.mapM_cons, List.forall₂_cons_left_iff]
    constructor
    · intro h
      obtain ⟨y, hy, h⟩ := bind_eq_ok_iff.mp h
      obtain ⟨rest, hrest, h⟩ := bind_eq_ok_iff.mp h
      exact ⟨y, rest, hy, ih.mp hrest, (pure_eq_ok_iff.mp h).symm⟩
    · rintro ⟨y, rest, hy, hrest, rfl⟩
      rw [hy, ih.mpr hrest]
      rfl

/-- A list is read back from what was made of its items. -/
theorem mapM_map_eq_some {f : β → Option α} {g : α → β} {xs : List α}
    (h : ∀ x ∈ xs, f (g x) = some x) : (xs.map g).mapM f = some xs := by
  induction xs with
  | nil => rfl
  | cons x xs ih =>
    obtain ⟨hx, hxs⟩ := List.forall_mem_cons.mp h
    rw [List.map_cons, List.mapM_cons, hx, ih hxs]
    rfl

/-- A list can be read exactly when every item can. -/
theorem mapM_isOk_iff {f : α → Except ε β} {xs : List α} :
    (∃ ys, xs.mapM f = .ok ys) ↔ ∀ x ∈ xs, ∃ y, f x = .ok y := by
  induction xs with
  | nil => simp
  | cons x xs ih =>
    rw [List.forall_mem_cons, ← ih, List.mapM_cons]
    simp only [bind_eq_ok_iff, pure_eq_ok_iff]
    constructor
    · rintro ⟨_, y, hy, ys, hys, rfl⟩
      exact ⟨⟨y, hy⟩, ys, hys⟩
    · rintro ⟨⟨y, hy⟩, ys, hys⟩
      exact ⟨_, y, hy, ys, hys, rfl⟩

/-- What stands in the second of two related lists is related to an item of the first. -/
theorem exists_of_mem_forall₂ {r : α → β → Prop} {xs : List α} {ys : List β} {y : β}
    (h : List.Forall₂ r xs ys) (hy : y ∈ ys) : ∃ x ∈ xs, r x y := by
  induction h with
  | nil => exact absurd hy List.not_mem_nil
  | @cons x y' xs ys hx hxs ih =>
    obtain rfl | hy := List.mem_cons.mp hy
    · exact ⟨x, List.mem_cons_self, hx⟩
    · obtain ⟨x', hx', hfx'⟩ := ih hy
      exact ⟨x', List.mem_cons_of_mem x hx', hfx'⟩

/-- Where an item stands in the second of two related lists, an item related to it stands in the
first. -/
theorem exists_split_of_forall₂ {r : α → β → Prop} {xs : List α} {before after : List β} {y : β}
    (h : List.Forall₂ r xs (before ++ y :: after)) :
    ∃ first x last, xs = first ++ x :: last ∧ List.Forall₂ r first before ∧ r x y ∧
      List.Forall₂ r last after := by
  obtain ⟨x, last, hx, hlast, hdrop⟩ :=
    List.forall₂_cons_right_iff.mp (List.forall₂_drop_append _ _ _ h)
  refine ⟨xs.take before.length, x, last, ?_, List.forall₂_take_append _ _ _ h, hx, hlast⟩
  rw [← hdrop, List.take_append_drop]

theorem exists_of_rel_some {r : α → β → Prop} {x : Option α} {y : β}
    (h : Option.Rel r x (some y)) : ∃ a, x = some a ∧ r a y := by
  cases h with
  | some h => exact ⟨_, rfl, h⟩

theorem rel_imp {r r' : α → β → Prop} {x : Option α} {y : Option β} (h : Option.Rel r x y)
    (himp : ∀ a b, r a b → r' a b) : Option.Rel r' x y := by
  cases h with
  | none => exact .none
  | some h => exact .some (himp _ _ h)

/-- What stops the reading of a list stops the reading of one of its items. -/
theorem exists_mem_of_mapM_eq_error {f : α → Except ε β} {xs : List α} {e : ε}
    (h : xs.mapM f = .error e) : ∃ x ∈ xs, f x = .error e := by
  induction xs with
  | nil => exact absurd h pure_ne_error
  | cons x xs ih =>
    rw [List.mapM_cons] at h
    simp only [bind_eq_error_iff, pure_ne_error, and_false, exists_false, or_false] at h
    obtain h | ⟨_, _, h⟩ := h
    · exact ⟨x, List.mem_cons_self, h⟩
    · obtain ⟨y, hy, hfy⟩ := ih h
      exact ⟨y, List.mem_cons_of_mem x hy, hfy⟩

/-! ### Folds -/

/-- A fold whose steps all succeed succeeds, with what every step ends in. -/
theorem exists_foldlM_eq_ok {f : β → α → Except ε β} {P : β → Prop} {xs : List α} {b : β}
    (hstep : ∀ b, ∀ x ∈ xs, ∃ b', f b x = .ok b' ∧ P b') (h : P b ∨ xs ≠ []) :
    ∃ last, xs.foldlM f b = .ok last ∧ P last := by
  induction xs generalizing b with
  | nil => exact ⟨b, rfl, h.resolve_right fun hne => hne rfl⟩
  | cons x xs ih =>
    obtain ⟨next, hnext, hP⟩ := hstep b x List.mem_cons_self
    obtain ⟨last, hlast, hP'⟩ := ih (fun b x hx => hstep b x (List.mem_cons_of_mem _ hx)) (.inl hP)
    exact ⟨last, by rw [List.foldlM_cons, hnext]; exact hlast, hP'⟩

/-- What stops a fold stops one of its steps. -/
theorem exists_mem_of_foldlM_eq_error {f : β → α → Except ε β} {xs : List α} {b : β} {e : ε}
    (h : xs.foldlM f b = .error e) : ∃ b', ∃ x ∈ xs, f b' x = .error e := by
  induction xs generalizing b with
  | nil => exact absurd h pure_ne_error
  | cons x xs ih =>
    rw [List.foldlM_cons, bind_eq_error_iff] at h
    obtain h | ⟨next, -, h⟩ := h
    · exact ⟨b, x, List.mem_cons_self, h⟩
    · obtain ⟨b', x', hx', hstep⟩ := ih h
      exact ⟨b', x', List.mem_cons_of_mem x hx', hstep⟩

/-- In a fold that succeeds, the step of every item does. -/
theorem exists_step_of_foldlM_eq_ok {f : β → α → Except ε β} {xs : List α} {b last : β}
    (h : xs.foldlM f b = .ok last) {x : α} (hx : x ∈ xs) : ∃ b' next, f b' x = .ok next := by
  induction xs generalizing b with
  | nil => cases hx
  | cons y xs ih =>
    rw [List.foldlM_cons, bind_eq_ok_iff] at h
    obtain ⟨next, hnext, h⟩ := h
    obtain rfl | hx := List.mem_cons.mp hx
    · exact ⟨b, next, hnext⟩
    · exact ih h hx

end Registrar
