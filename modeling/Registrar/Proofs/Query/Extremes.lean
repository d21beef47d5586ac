import Registrar.Proofs.Number.Order
import Registrar.Proofs.Query.Safety

/-!
# Greatest and least numbers

An extreme of a group is found by going through its records and keeping the number that lies further
out. The first number is kept as it is: there is no number to start from, so that a group of
negative numbers does not end up with a zero.

The two extremes mirror each other. A number lies further out for the greatest one if it is larger,
and for the least one if it is smaller; so all that is said here is said once, in terms of the
*height* of a number, which is its place in the order or the mirror image of it. Keeping one of two
numbers keeps the greater height. What is kept of all is therefore one of the numbers, and none is
higher. This determines it but for the sign of zero, and nothing in it depends on the order of the
records.

## Main definitions

* `Extreme` — the two extremes; `Extreme.beyond` is the order in which they are extreme.
* `Extreme.IsOutermost` — a number of a list that no other one lies beyond.
* `Extreme.IsReached` — the same for the numbers of records.

## Main results

* `Extreme.isOutermost_pick` — one step keeps the outermost number.
* `Extreme.isOutermost_foldl` — and so do all of them.
* `extremes_are_reached` — what the rules for extremes come to, in every order and part by part.
-/

namespace Registrar

/-- The two extremes of a list of numbers. -/
inductive Extreme where
  | greatest
  | least
deriving DecidableEq, Repr

namespace Extreme

/-- The aggregate that reports an extreme. -/
def aggregate : Extreme → Aggregate
  | greatest => .max
  | least => .min

/-- What is kept of two numbers. -/
def pick : Extreme → Binary64 → Binary64 → Binary64
  | greatest => Binary64.max
  | least => Binary64.min

/-- The first number lies further out than the second one: it is larger, or it is smaller. -/
def beyond : Extreme → Binary64 → Binary64 → Bool
  | greatest, a, b => b.lt a
  | least, a, b => a.lt b

/-- How far out a number lies. -/
def height : Extreme → Binary64 → Int
  | greatest, a => a.key
  | least, a => -a.key

variable {extreme : Extreme} {a b : Binary64}

theorem beyond_eq_false_iff (extreme : Extreme) (ha : a.isNaN = false) (hb : b.isNaN = false) :
    extreme.beyond a b = false ↔ extreme.height a ≤ extreme.height b := by
  cases extreme <;> simp [beyond, height, Binary64.lt, ha, hb]

theorem eq_iff_height_eq (ha : a.isNaN = false) (hb : b.isNaN = false) :
    a.eq b = true ↔ extreme.height a = extreme.height b := by
  cases extreme <;> simp [height, Binary64.eq, ha, hb]

/-- **One of two numbers is kept, and the other one is not higher.** -/
theorem pick_cases (extreme : Extreme) (ha : a.isNaN = false) (hb : b.isNaN = false) :
    (extreme.pick a b = a ∧ extreme.height b ≤ extreme.height a) ∨
      (extreme.pick a b = b ∧ extreme.height a ≤ extreme.height b) := by
  have hle := beyond_eq_false_iff extreme hb ha
  have hnumber : ¬a.isNaN = true := by simp [ha]
  have hpick : extreme.pick a b = if extreme.beyond b a then b else a := by
    cases extreme with
    | greatest => exact if_neg hnumber
    | least => exact if_neg hnumber
  rw [hpick]
  cases hbeyond : extreme.beyond b a with
  | false => exact .inl ⟨rfl, hle.mp hbeyond⟩
  | true =>
    have hlt : ¬extreme.height b ≤ extreme.height a := fun h => by simp [hle.mpr h] at hbeyond
    exact .inr ⟨rfl, by omega⟩

/-! ### Outermost numbers -/

/-- A number of a list that no number of the list lies beyond. -/
structure IsOutermost (extreme : Extreme) (values : List Binary64) (best : Binary64) : Prop where
  mem : best ∈ values
  bound : ∀ value ∈ values, extreme.beyond value best = false

variable {values others : List Binary64} {best other : Binary64}

theorem isOutermost_iff (hvalues : ∀ value ∈ values, value.isNaN = false) :
    extreme.IsOutermost values best ↔
      best ∈ values ∧ ∀ value ∈ values, extreme.height value ≤ extreme.height best := by
  constructor
  · rintro ⟨hmem, hbound⟩
    exact ⟨hmem, fun value hvalue => (beyond_eq_false_iff extreme (hvalues value hvalue)
      (hvalues best hmem)).mp (hbound value hvalue)⟩
  · rintro ⟨hmem, hbound⟩
    exact ⟨hmem, fun value hvalue => (beyond_eq_false_iff extreme (hvalues value hvalue)
      (hvalues best hmem)).mpr (hbound value hvalue)⟩

/-- Outermost numbers of the same list are equal, but for the sign of zero. -/
theorem IsOutermost.eq (h : extreme.IsOutermost values best) (h' : extreme.IsOutermost values other)
    (hvalues : ∀ value ∈ values, value.isNaN = false) : best.eq other = true := by
  obtain ⟨hbest, hbound⟩ := (isOutermost_iff hvalues).mp h
  obtain ⟨hother, hbound'⟩ := (isOutermost_iff hvalues).mp h'
  exact (eq_iff_height_eq (hvalues best hbest) (hvalues other hother)).mpr
    (Int.le_antisymm (hbound' best hbest) (hbound other hother))

theorem IsOutermost.congr (h : extreme.IsOutermost values best)
    (hsame : ∀ value, value ∈ others ↔ value ∈ values) : extreme.IsOutermost others best :=
  ⟨(hsame best).mpr h.mem, fun value hvalue => h.bound value ((hsame value).mp hvalue)⟩

theorem isOutermost_singleton (hbest : best.isNaN = false) :
    extreme.IsOutermost [best] best := by
  rw [isOutermost_iff (List.forall_mem_singleton.mpr hbest)]
  exact ⟨List.mem_singleton_self best, List.forall_mem_singleton.mpr (Int.le_refl _)⟩

/-- **What is kept of two outermost numbers is outermost in both lists together.** -/
theorem isOutermost_pick (h : extreme.IsOutermost values best)
    (h' : extreme.IsOutermost others other) (hvalues : ∀ value ∈ values, value.isNaN = false)
    (hothers : ∀ value ∈ others, value.isNaN = false) :
    extreme.IsOutermost (values ++ others) (extreme.pick best other) := by
  obtain ⟨hbest, hbound⟩ := (isOutermost_iff hvalues).mp h
  obtain ⟨hother, hbound'⟩ := (isOutermost_iff hothers).mp h'
  rw [isOutermost_iff (List.forall_mem_append.mpr ⟨hvalues, hothers⟩), List.forall_mem_append]
  obtain ⟨hpick, hle⟩ | ⟨hpick, hle⟩ :=
    extreme.pick_cases (hvalues best hbest) (hothers other hother)
  · rw [hpick]
    exact ⟨List.mem_append_left _ hbest, hbound, fun value hvalue =>
      (hbound' value hvalue).trans hle⟩
  · rw [hpick]
    exact ⟨List.mem_append_right _ hother, fun value hvalue => (hbound value hvalue).trans hle,
      hbound'⟩

/-- **What is kept in the end is outermost**, if what is kept at first is. -/
theorem isOutermost_foldl (h : extreme.IsOutermost values best)
    (hvalues : ∀ value ∈ values, value.isNaN = false)
    (hothers : ∀ value ∈ others, value.isNaN = false) :
    extreme.IsOutermost (values ++ others) (others.foldl extreme.pick best) := by
  induction others generalizing values best with
  | nil => rwa [List.append_nil]
  | cons value others ih =>
    obtain ⟨hvalue, hothers⟩ := List.forall_mem_cons.mp hothers
    have hstep := isOutermost_pick h (isOutermost_singleton hvalue) hvalues
      (List.forall_mem_singleton.mpr hvalue)
    have hall : ∀ x ∈ values ++ [value], x.isNaN = false :=
      List.forall_mem_append.mpr ⟨hvalues, List.forall_mem_singleton.mpr hvalue⟩
    have hrest := ih hstep hall hothers
    rwa [List.append_assoc, List.singleton_append] at hrest

end Extreme

/-! ### Records -/

variable {α : Type} [HasFields α] {key : FieldKey} {records : List α} {values : List Binary64}

/-- The fold over the records is a fold over their numbers. -/
theorem foldlM_pick_eq (pick : Binary64 → Binary64 → Binary64)
    (h : List.Forall₂ (fun record value => field? record key.field = some (.number value)) records
      values) (best : Binary64) :
    records.foldlM
      (fun (best : Option Binary64) record => do
        let value ← measureOf key record
        return some (match best with
          | some best => pick best value
          | none => value))
      (some best) = .ok (some (values.foldl pick best)) := by
  induction h generalizing best with
  | nil => rfl
  | cons hvalue _ ih =>
    rw [List.foldlM_cons, measureOf_eq_ok_iff.mpr hvalue]
    exact ih _

/-- An extreme of records is an extreme of their numbers, of which the first is kept as it is. -/
theorem extremum_eq_ok (pick : Binary64 → Binary64 → Binary64) {value : Binary64}
    (h : List.Forall₂ (fun record value => field? record key.field = some (.number value)) records
      (value :: values)) : extremum pick key records = .ok (values.foldl pick value) := by
  obtain ⟨record, rest, hvalue, hrest, rfl⟩ := List.forall₂_cons_right_iff.mp h
  rw [extremum, List.foldlM_cons, measureOf_eq_ok_iff.mpr hvalue]
  have hfold := foldlM_pick_eq pick hrest value
  simp only [bind_ok] at hfold ⊢
  exact congrArg (· >>= orDefect .emptyGroup) hfold

/-- The record has a number in a field, and it is one. -/
def HasNumber (key : FieldKey) (record : α) : Prop :=
  ∃ value : Binary64, field? record key.field = some (.number value) ∧ value.isNaN = false

/-- Records that have numbers have a list of numbers. -/
theorem exists_numbers (h : ∀ record ∈ records, HasNumber key record) :
    ∃ values : List Binary64,
      List.Forall₂ (fun record value => field? record key.field = some (.number value)) records
        values ∧ ∀ value ∈ values, value.isNaN = false := by
  induction records with
  | nil => exact ⟨[], .nil, List.forall_mem_nil _⟩
  | cons record records ih =>
    obtain ⟨⟨value, hfield, hvalue⟩, hrecords⟩ := List.forall_mem_cons.mp h
    obtain ⟨values, hfields, hvalues⟩ := ih hrecords
    exact ⟨value :: values, .cons hfield hfields, List.forall_mem_cons.mpr ⟨hvalue, hvalues⟩⟩

/-- A number of one of the records, and none of them has one that lies beyond it. -/
structure Extreme.IsReached (extreme : Extreme) (key : FieldKey) (records : List α)
    (best : Binary64) : Prop where
  attained : ∃ record ∈ records, field? record key.field = some (.number best)
  bound : ∀ record ∈ records, ∀ value, field? record key.field = some (.number value) →
    extreme.beyond value best = false

theorem Extreme.IsOutermost.isReached {extreme : Extreme} {best : Binary64}
    (h : extreme.IsOutermost values best)
    (hvalues : List.Forall₂ (fun record value => field? record key.field = some (.number value))
      records values) : extreme.IsReached key records best where
  attained := by
    obtain ⟨record, hrecord, hfield⟩ := exists_of_mem_forall₂ hvalues h.mem
    exact ⟨record, hrecord, hfield⟩
  bound record hrecord value hfield := by
    obtain ⟨value', hmem, hfield'⟩ := exists_of_mem_forall₂ hvalues.flip hrecord
    cases hfield.symm.trans hfield'
    exact h.bound value hmem

variable {extreme : Extreme} {rule : ApplyRule}

/-- **The rule for an extreme comes to an outermost number.** -/
theorem exists_evaluate_eq_ok (hrule : rule.aggregate = extreme.aggregate)
    (hvalues : List.Forall₂ (fun record value => field? record rule.key.field =
      some (.number value)) records values) (hne : records ≠ [])
    (hnumbers : ∀ value ∈ values, value.isNaN = false) :
    ∃ best, rule.evaluate records = .ok (.number best) ∧ extreme.IsOutermost values best := by
  have hrun : rule.evaluate records = (extremum extreme.pick rule.key records).map .number := by
    rw [ApplyRule.evaluate, hrule]
    cases extreme <;> rfl
  cases hvalues with
  | nil => exact absurd rfl hne
  | @cons record value records values hvalue hvalues =>
    obtain ⟨hvalue', hnumbers⟩ := List.forall_mem_cons.mp hnumbers
    refine ⟨values.foldl extreme.pick value, ?_, ?_⟩
    · rw [hrun, extremum_eq_ok extreme.pick (.cons hvalue hvalues)]
      rfl
    · exact Extreme.isOutermost_foldl (Extreme.isOutermost_singleton hvalue')
        (List.forall_mem_singleton.mpr hvalue') hnumbers

/-- **The rules for extremes report true extremes.** Over records that have numbers, and of which
there are some, the number is that of a record, and none of the records has one beyond it. In every
order of the records it is the same, and of two lists, one after the other, it is what is kept of
the numbers of both. -/
theorem extremes_are_reached (hrule : rule.aggregate = extreme.aggregate) (hne : records ≠ [])
    (hrecords : ∀ record ∈ records, HasNumber rule.key record) :
    ∃ best, rule.evaluate records = .ok (.number best) ∧
      extreme.IsReached rule.key records best ∧
      (∀ reordered : List α, reordered.Perm records →
        ∃ other, rule.evaluate reordered = .ok (.number other) ∧ other.eq best = true) ∧
      ∀ more : List α, more ≠ [] → (∀ record ∈ more, HasNumber rule.key record) →
        ∃ other joined, rule.evaluate more = .ok (.number other) ∧
          rule.evaluate (records ++ more) = .ok (.number joined) ∧
          joined.eq (extreme.pick best other) = true := by
  obtain ⟨values, hvalues, hnumbers⟩ := exists_numbers hrecords
  obtain ⟨best, hbest, houtermost⟩ := exists_evaluate_eq_ok hrule hvalues hne hnumbers
  refine ⟨best, hbest, houtermost.isReached hvalues, fun reordered hperm => ?_,
    fun more hmore hhave => ?_⟩
  · obtain ⟨others, hothers, hsame⟩ := List.perm_comp_forall₂ hperm hvalues
    have hne' : reordered ≠ [] := fun hnil => hne (List.nil_perm.mp (hnil ▸ hperm))
    have hnumbers' : ∀ value ∈ others, value.isNaN = false := fun value hvalue =>
      hnumbers value (hsame.mem_iff.mp hvalue)
    obtain ⟨other, hother, houtermost'⟩ := exists_evaluate_eq_ok hrule hothers hne' hnumbers'
    exact ⟨other, hother, (houtermost'.congr fun _ => hsame.mem_iff.symm).eq houtermost hnumbers⟩
  · obtain ⟨others, hothers, hnumbers'⟩ := exists_numbers hhave
    have hall := List.forall_mem_append.mpr ⟨hnumbers, hnumbers'⟩
    obtain ⟨other, hother, houtermost'⟩ := exists_evaluate_eq_ok hrule hothers hmore hnumbers'
    obtain ⟨joined, hjoined, houtermostBoth⟩ := exists_evaluate_eq_ok hrule
      (List.rel_append hvalues hothers) (List.append_ne_nil_of_left_ne_nil hne more) hall
    exact ⟨other, joined, hother, hjoined, houtermostBoth.eq
      (Extreme.isOutermost_pick houtermost houtermost' hnumbers hnumbers') hall⟩

/-- Zeros of both signs below a one: the least number is the zero that comes first, so its sign
depends on the order, and the number does not. -/
theorem extremes_are_reached_zeros :
    let record (value : Binary64) : Attributes := ⟨[("x", .number value)]⟩
    let one := record ⟨0x3ff0000000000000⟩
    let plus := record .zero
    let minus := record Binary64.zero.neg
    let rule : ApplyRule := ⟨"low", .min, ⟨"d", "x"⟩⟩
    rule.evaluate [one, minus, plus] = .ok (.number Binary64.zero.neg) ∧
      rule.evaluate [plus, minus, one] = .ok (.number .zero) ∧
      ∃ best, rule.evaluate [one, minus, plus] = .ok (.number best) ∧
        Extreme.least.IsReached rule.key [one, minus, plus] best ∧
        ∃ other, rule.evaluate [plus, minus, one] = .ok (.number other) ∧
          other.eq best = true := by
  intro record one plus minus rule
  have hrecords : ∀ record ∈ [one, minus, plus], HasNumber rule.key record := by
    simp only [List.forall_mem_cons, List.not_mem_nil, false_implies, implies_true, and_true]
    exact ⟨⟨_, rfl, by decide⟩, ⟨_, rfl, by decide⟩, ⟨_, rfl, by decide⟩⟩
  have hrule : rule.aggregate = Extreme.least.aggregate := rfl
  obtain ⟨best, hbest, hreached, hperm, -⟩ := extremes_are_reached hrule (by simp) hrecords
  exact ⟨by decide +kernel, by decide +kernel, best, hbest, hreached,
    hperm [plus, minus, one] (List.reverse_perm [one, minus, plus])⟩

end Registrar
