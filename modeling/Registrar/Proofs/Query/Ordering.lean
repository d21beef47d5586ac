import Mathlib.Data.Sum.Order
import Registrar.Proofs.Number.Order
import Registrar.Proofs.Query.Sorting
import Registrar.Proofs.Text.ByteOrder

/-!
# Rows in order

Rows are compared key by key, the first key in which they differ deciding. Numbers are compared by
size, texts by their bytes, and numbers stand before texts; downwards every key is compared the
other way round. So rows that are level in all keys are level in both directions, and sorting leaves
them as they were.

## Why rows need places

The comparison is not an order on all rows. A missing cell and not-a-number count as equal to
everything, so `1`, not-a-number and `0` would each be allowed to follow the one before. Where every
row has a value with a place in every key, the values of one key are those of a linear order, which
is `FieldValue.place`, and the order of rows comes from it by induction on the keys.

## Main definitions

* `FieldValue.Below`, `FieldValue.Level` — the order of values.
* `Row.Precedes`, `Row.Level` — the order of rows.
* `Row.HasPlaces` — the rows that are ordered.

## Main results

* `Row.compareKeys_eq_lt_iff` — what is compared is the order.
* `Row.not_precedes_trans` — it is one, key by key.
* `sortRows_orders` — sorted rows are in order, and level rows keep theirs.
-/

namespace Registrar

/-! ### Values -/

namespace FieldValue

/-- A value that has a place in the order: anything but not-a-number. -/
def HasPlace : FieldValue → Prop
  | number value => value.isNaN = false
  | text _ => True

/-- A value is below another one: a number is smaller, a text has smaller bytes, and numbers are
below texts. In the units of numbers, the infinite ones lie beyond all others. -/
inductive Below : FieldValue → FieldValue → Prop
  | numbers {a b : Binary64} (h : a.signedUnits < b.signedUnits) : Below (number a) (number b)
  | texts {a b : String} (h : utf8Bytes a < utf8Bytes b) : Below (text a) (text b)
  | kinds (a : Binary64) (b : String) : Below (number a) (text b)

/-- Two values have one place in the order: numbers of the same size, or the same text. -/
inductive Level : FieldValue → FieldValue → Prop
  | numbers {a b : Binary64} (h : a.signedUnits = b.signedUnits) : Level (number a) (number b)
  | texts (a : String) : Level (text a) (text a)

/-- The place of a value in the order. -/
def place : FieldValue → Lex (Int ⊕ String)
  | number value => toLex (.inl value.signedUnits)
  | text value => toLex (.inr value)

variable {a b : FieldValue}

theorem below_iff : a.Below b ↔ a.place < b.place := by
  constructor
  · intro h
    cases h with
    | numbers h => exact Sum.Lex.inl_lt_inl_iff.mpr h
    | texts h => exact Sum.Lex.inr_lt_inr_iff.mpr (utf8Bytes_lt_iff.mp h)
    | kinds a b => exact Sum.Lex.inl_lt_inr _ _
  · intro h
    cases a with
    | number a =>
      cases b with
      | number b => exact .numbers (Sum.Lex.inl_lt_inl_iff.mp h)
      | text b => exact .kinds a b
    | text a =>
      cases b with
      | number b => exact absurd h Sum.Lex.not_inr_lt_inl
      | text b => exact .texts (utf8Bytes_lt_iff.mpr (Sum.Lex.inr_lt_inr_iff.mp h))

theorem level_iff : a.Level b ↔ a.place = b.place := by
  constructor
  · intro h
    cases h with
    | numbers h => rw [place, place, h]
    | texts a => rfl
  · intro h
    cases a with
    | number a =>
      cases b with
      | number b => exact .numbers (by simpa [place] using h)
      | text b => simp [place] at h
    | text a =>
      cases b with
      | number b => simp [place] at h
      | text b =>
        obtain rfl : a = b := by simpa [place] using h
        exact .texts a

theorem order_swap (a b : FieldValue) : (a.order b).swap = b.order a := by
  cases a with
  | number a =>
    cases b with
    | number b =>
      rw [order, order, Binary64.compare?, Binary64.compare?, Bool.or_comm]
      split
      · rfl
      · exact Int.compare_swap a.key b.key
    | text b => rfl
  | text a =>
    cases b with
    | number b => rfl
    | text b =>
      rw [order, order, compareText, compareText]
      obtain h | rfl | h := lt_trichotomy a b
      · rw [if_pos h, if_neg (lt_asymm h), if_pos h]
        rfl
      · rw [if_neg (lt_irrefl a), if_neg (lt_irrefl a)]
        rfl
      · rw [if_pos h, if_neg (lt_asymm h), if_pos h]
        rfl

theorem order_eq_lt_iff (ha : a.HasPlace) (hb : b.HasPlace) : a.order b = .lt ↔ a.Below b := by
  rw [below_iff]
  cases a with
  | number a =>
    cases b with
    | number b =>
      have ha : a.isNaN = false := ha
      have hb : b.isNaN = false := hb
      have hkey := Binary64.key_le_key_iff (x := b) (y := a)
      rw [order, Binary64.compare?, ha, hb]
      simp only [Bool.or_self, Bool.false_eq_true, if_false, Option.getD_some, Int.compare_eq_lt,
        place, Sum.Lex.inl_lt_inl_iff]
      omega
    | text b => exact iff_of_true rfl (Sum.Lex.inl_lt_inr _ _)
  | text a =>
    cases b with
    | number b => exact iff_of_false (fun h => nomatch h) Sum.Lex.not_inr_lt_inl
    | text b =>
      rw [order, compareText, place, place, Sum.Lex.inr_lt_inr_iff]
      split
      · next h => exact iff_of_true rfl h
      · next h => exact iff_of_false (by split <;> decide) h

theorem order_eq_eq_iff (ha : a.HasPlace) (hb : b.HasPlace) : a.order b = .eq ↔ a.Level b := by
  have hlt := order_eq_lt_iff ha hb
  have hgt := order_eq_lt_iff hb ha
  rw [below_iff] at hlt hgt
  rw [← order_swap, Ordering.swap_eq_lt] at hgt
  rw [level_iff]
  obtain h | h | h := lt_trichotomy a.place b.place
  · exact iff_of_false (by rw [hlt.mpr h]; decide) h.ne
  · refine iff_of_true ?_ h
    cases horder : a.order b with
    | eq => rfl
    | lt => exact absurd h (hlt.mp horder).ne
    | gt => exact absurd h (hgt.mp horder).ne'
  · exact iff_of_false (by rw [hgt.mpr h]; decide) h.ne'

end FieldValue

/-! ### Directions -/

/-- Value `a` stands before value `b` in a direction. -/
def Direction.Puts (direction : Direction) (a b : FieldValue) : Prop :=
  match direction with
  | .up => a.Below b
  | .down => b.Below a

namespace Direction

variable {a b c : FieldValue} (direction : Direction)

theorem apply_eq_lt_iff (ha : a.HasPlace) (hb : b.HasPlace) :
    direction.apply (a.order b) = .lt ↔ direction.Puts a b := by
  cases direction with
  | up => exact FieldValue.order_eq_lt_iff ha hb
  | down => rw [apply, FieldValue.order_swap, FieldValue.order_eq_lt_iff hb ha, Puts]

theorem apply_eq_eq_iff (ha : a.HasPlace) (hb : b.HasPlace) :
    direction.apply (a.order b) = .eq ↔ a.Level b := by
  rw [← FieldValue.order_eq_eq_iff ha hb]
  cases direction with
  | up => rfl
  | down => exact Ordering.swap_eq_eq

theorem puts_iff : direction.Puts a b ↔
    match direction with
    | .up => a.place < b.place
    | .down => b.place < a.place := by
  cases direction <;> exact FieldValue.below_iff

theorem not_puts_trans (hab : ¬direction.Puts b a) (hbc : ¬direction.Puts c b) :
    ¬direction.Puts c a := by
  rw [puts_iff] at hab hbc ⊢
  cases direction with
  | up => exact not_lt.mpr ((not_lt.mp hab).trans (not_lt.mp hbc))
  | down => exact not_lt.mpr ((not_lt.mp hbc).trans (not_lt.mp hab))

/-- If the ends of three values are level, then all three are. -/
theorem level_of_not_puts (hab : ¬direction.Puts b a) (hbc : ¬direction.Puts c b)
    (hca : c.Level a) : b.Level a ∧ c.Level b := by
  rw [puts_iff] at hab hbc
  rw [FieldValue.level_iff] at hca
  rw [FieldValue.level_iff, FieldValue.level_iff]
  cases direction with
  | up =>
    have hxy := not_lt.mp hab
    have hyz := not_lt.mp hbc
    exact ⟨le_antisymm (hyz.trans hca.le) hxy, le_antisymm (hca.le.trans hxy) hyz⟩
  | down =>
    have hyx := not_lt.mp hab
    have hzy := not_lt.mp hbc
    exact ⟨le_antisymm hyx (hca.ge.trans hzy), le_antisymm hzy (hyx.trans hca.ge)⟩

theorem not_puts_of_level (h : a.Level b) : ¬direction.Puts b a := by
  rw [FieldValue.level_iff] at h
  rw [puts_iff]
  cases direction with
  | up => exact h.not_gt
  | down => exact h.not_lt

end Direction

/-! ### Rows -/

namespace Row

/-- A row has the sort columns, and in them values that have a place in the order. -/
def HasPlaces (row : Row) (keys : List String) : Prop :=
  ∀ key ∈ keys, ∃ value, row.get? key = some value ∧ value.HasPlace

/-- Row `a` comes before row `b`: the first of the keys in which they are not level decides. -/
inductive Precedes (direction : Direction) (a b : Row) : List String → Prop
  | decides {key : String} {keys : List String} {x y : FieldValue} (ha : a.get? key = some x)
      (hb : b.get? key = some y) (h : direction.Puts x y) : Precedes direction a b (key :: keys)
  | later {key : String} {keys : List String} {x y : FieldValue} (ha : a.get? key = some x)
      (hb : b.get? key = some y) (h : x.Level y) (hkeys : Precedes direction a b keys) :
      Precedes direction a b (key :: keys)

/-- Two rows are level in all of the keys. -/
def Level (keys : List String) (a b : Row) : Prop :=
  ∀ key ∈ keys, ∃ x y, a.get? key = some x ∧ b.get? key = some y ∧ x.Level y

variable {direction : Direction} {a b c : Row} {key : String} {keys : List String}

theorem not_precedes_nil : ¬Precedes direction a b [] := by
  intro h
  cases h

theorem precedes_cons_iff {x y : FieldValue} (ha : a.get? key = some x) (hb : b.get? key = some y) :
    Precedes direction a b (key :: keys) ↔
      direction.Puts x y ∨ x.Level y ∧ Precedes direction a b keys := by
  constructor
  · intro h
    cases h with
    | decides ha' hb' h =>
      obtain rfl := Option.some.inj (ha.symm.trans ha')
      obtain rfl := Option.some.inj (hb.symm.trans hb')
      exact .inl h
    | later ha' hb' h hkeys =>
      obtain rfl := Option.some.inj (ha.symm.trans ha')
      obtain rfl := Option.some.inj (hb.symm.trans hb')
      exact .inr ⟨h, hkeys⟩
  · rintro (h | ⟨h, hkeys⟩)
    · exact .decides ha hb h
    · exact .later ha hb h hkeys

/-- **What is compared is the order of rows.** -/
theorem compareKeys_eq_lt_iff (ha : a.HasPlaces keys) (hb : b.HasPlaces keys) :
    compareKeys direction (keys.map a.get?) (keys.map b.get?) = .lt ↔
      Precedes direction a b keys := by
  induction keys with
  | nil => exact iff_of_false (fun h => nomatch h) not_precedes_nil
  | cons key keys ih =>
    obtain ⟨⟨x, hx, hxplace⟩, ha⟩ := List.forall_mem_cons.mp ha
    obtain ⟨⟨y, hy, hyplace⟩, hb⟩ := List.forall_mem_cons.mp hb
    rw [precedes_cons_iff hx hy, List.map_cons, List.map_cons, hx, hy, compareKeys,
      Ordering.then_eq_lt, ih ha hb, direction.apply_eq_lt_iff hxplace hyplace,
      direction.apply_eq_eq_iff hxplace hyplace]

/-- If neither of two rows comes before the one in front of it, then the last does not come before
the first. -/
theorem not_precedes_trans (ha : a.HasPlaces keys) (hb : b.HasPlaces keys)
    (hc : c.HasPlaces keys) (hab : ¬Precedes direction b a keys)
    (hbc : ¬Precedes direction c b keys) : ¬Precedes direction c a keys := by
  induction keys with
  | nil => exact not_precedes_nil
  | cons key keys ih =>
    obtain ⟨⟨x, hx, -⟩, ha⟩ := List.forall_mem_cons.mp ha
    obtain ⟨⟨y, hy, -⟩, hb⟩ := List.forall_mem_cons.mp hb
    obtain ⟨⟨z, hz, -⟩, hc⟩ := List.forall_mem_cons.mp hc
    rw [precedes_cons_iff hy hx, not_or, not_and] at hab
    rw [precedes_cons_iff hz hy, not_or, not_and] at hbc
    rw [precedes_cons_iff hz hx]
    rintro (h | ⟨h, hkeys⟩)
    · exact direction.not_puts_trans hab.1 hbc.1 h
    · obtain ⟨hyx, hzy⟩ := direction.level_of_not_puts hab.1 hbc.1 h
      exact ih ha hb hc (hab.2 hyx) (hbc.2 hzy) hkeys

theorem not_precedes_of_level (h : Level keys a b) : ¬Precedes direction b a keys := by
  induction keys with
  | nil => exact not_precedes_nil
  | cons key keys ih =>
    obtain ⟨⟨x, y, hx, hy, hlevel⟩, hkeys⟩ := List.forall_mem_cons.mp h
    rw [precedes_cons_iff hy hx, not_or, not_and]
    exact ⟨direction.not_puts_of_level hlevel, fun _ => ih hkeys⟩

end Row

theorem Direction.apply_swap (direction : Direction) (ordering : Ordering) :
    (direction.apply ordering).swap = direction.apply ordering.swap := by
  cases direction <;> rfl

/-- Rows are compared the same way from both sides. -/
theorem compareKeys_swap (direction : Direction) (as bs : List (Option FieldValue)) :
    (compareKeys direction as bs).swap = compareKeys direction bs as := by
  induction as generalizing bs with
  | nil => rcases bs with _ | ⟨_ | b, bs⟩ <;> rfl
  | cons a as ih =>
    cases bs with
    | nil => cases a <;> rfl
    | cons b bs =>
      cases a with
      | none => cases b <;> exact ih bs
      | some a =>
        cases b with
        | none => exact ih bs
        | some b =>
          rw [compareKeys, compareKeys, Ordering.swap_then, direction.apply_swap,
            FieldValue.order_swap, ih]

/-! ### Sorting -/

variable {order : Order} {rows : List Row}

theorem Order.less_eq_false_iff {a b : Row} (ha : a.HasPlaces order.keys)
    (hb : b.HasPlaces order.keys) :
    order.less a b = false ↔ ¬Row.Precedes order.direction a b order.keys := by
  rw [less, beq_eq_false_iff_ne, ne_eq, Row.compareKeys_eq_lt_iff ha hb]

theorem Order.less_asymm {a b : Row} (h : order.less a b = true) : order.less b a = false := by
  rw [less, beq_iff_eq] at h
  rw [less, ← compareKeys_swap, h]
  rfl

theorem Order.isWeakOrder_less (h : ∀ row ∈ rows, row.HasPlaces order.keys) :
    IsWeakOrder order.less rows := by
  refine ⟨fun a _ b _ hless => less_asymm hless, fun a ha b hb c hc hab hbc => ?_⟩
  rw [less_eq_false_iff (h b hb) (h a ha)] at hab
  rw [less_eq_false_iff (h c hc) (h b hb)] at hbc
  rw [less_eq_false_iff (h c hc) (h a ha)]
  exact Row.not_precedes_trans (h a ha) (h b hb) (h c hc) hab hbc

/-- **Rows are sorted stably, key by key.** If every row has a value with a place in every key, then
sorting returns the same rows in such an order that none comes before an earlier one; rows that are
level in all keys keep their order, whatever the direction; and rows that are in order already all
stay where they are. -/
theorem sortRows_orders (order : Order) (rows : List Row)
    (h : ∀ row ∈ rows, row.HasPlaces order.keys) :
    (sortRows order rows).Perm rows ∧
    ((sortRows order rows).Pairwise fun earlier later =>
      ¬Row.Precedes order.direction later earlier order.keys) ∧
    (∀ part : List Row, part.Sublist rows → part.Pairwise (Row.Level order.keys) →
      part.Sublist (sortRows order rows)) ∧
    ((rows.Pairwise fun earlier later =>
      ¬Row.Precedes order.direction later earlier order.keys) → sortRows order rows = rows) := by
  have hperm := sortRows_perm order rows
  rw [sortRows_eq] at hperm ⊢
  refine ⟨hperm, ?_, fun part hpart hlevel => ?_, fun hordered => ?_⟩
  · have hsorted := pairwise_insertionSort (Order.isWeakOrder_less h)
    refine hsorted.imp_of_mem fun ha hb hle => ?_
    exact (Order.less_eq_false_iff (h _ (hperm.subset hb)) (h _ (hperm.subset ha))).mp hle
  · refine sublist_insertionSort hpart (hlevel.imp_of_mem fun ha hb hab => ?_)
    rw [Order.less_eq_false_iff (h _ (hpart.subset hb)) (h _ (hpart.subset ha))]
    exact Row.not_precedes_of_level hab
  · refine insertionSort_eq_self (hordered.imp_of_mem fun ha hb hle => ?_)
    exact (Order.less_eq_false_iff (h _ hb) (h _ ha)).mpr hle

/-- Four rows downwards by two columns. The texts differ in a character of two bytes, one row has a
number instead of a text, and two rows are level, with zeros of both signs. -/
theorem sortRows_orders_zeros :
    let row (name : FieldValue) (size : Binary64) (id : String) : Row :=
      Row.empty.insertAll [("name", name), ("size", .number size), ("id", .text id)]
    let order : Order := .multi .down ["name", "size"]
    let plus := row (.text "z") .zero "plus"
    let accent := row (.text "\u00e9") .zero "accent"
    let number := row (.number .zero) .zero "number"
    let minus := row (.text "z") Binary64.zero.neg "minus"
    let rows := [plus, number, minus, accent]
    sortRows order rows = [accent, plus, minus, number] ∧
      ((sortRows order rows).Pairwise fun earlier later =>
        ¬Row.Precedes .down later earlier ["name", "size"]) ∧
      [plus, minus].Sublist (sortRows order rows) := by
  intro row order plus accent number minus rows
  have hrow {name : FieldValue} (size : Binary64) (id : String) (hname : name.HasPlace)
      (hsize : size.isNaN = false) : (row name size id).HasPlaces ["name", "size"] := by
    intro key hkey
    obtain rfl | rfl : key = "name" ∨ key = "size" := by simpa using hkey
    · exact ⟨name, rfl, hname⟩
    · exact ⟨.number size, rfl, hsize⟩
  have hplaces : ∀ row ∈ rows, row.HasPlaces order.keys := by
    simp only [rows, List.forall_mem_cons, List.not_mem_nil, false_imp_iff, implies_true, and_true]
    have hzero : FieldValue.HasPlace (.number .zero) := show Binary64.zero.isNaN = false by decide
    exact ⟨hrow _ _ trivial (by decide), hrow _ _ hzero (by decide), hrow _ _ trivial (by decide),
      hrow _ _ trivial (by decide)⟩
  obtain ⟨-, hordered, hstable, -⟩ := sortRows_orders order rows hplaces
  refine ⟨by decide +kernel, hordered, hstable [plus, minus] (by decide +kernel) ?_⟩
  refine List.pairwise_pair.mpr fun key hkey => ?_
  change key ∈ ["name", "size"] at hkey
  obtain rfl | rfl : key = "name" ∨ key = "size" := by simpa using hkey
  · exact ⟨_, _, rfl, rfl, .texts "z"⟩
  · exact ⟨_, _, rfl, rfl, .numbers (by decide)⟩

end Registrar
