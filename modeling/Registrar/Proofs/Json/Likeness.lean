import Mathlib.Data.List.Forall2
import Registrar.Proofs.Json.Members
import Registrar.Proofs.Outcome

/-!
# The same JSON value

Two trees may be spelled differently and yet be the same value: the members of an object come in no
particular order, and one number can be written in many ways. An object is therefore compared by
what is found under each name, and a number by the number of 64 bits that it stands for. Everything
else has to be the same, place by place.

Which numbers count as the same is left open. With equality of bit patterns the relation is the
finest that does not see how a number is written; with numeric equality it takes both zeros for one
number, and then not-a-number is not the same as itself.

## Main definitions

* `Json.Alike` — two trees are the same value.

## Main results

* `Json.Alike.of_names`, `Json.Alike.of_perm_pair` — objects of which all names are known.
* `Json.Alike.members` — objects in order are the same value member by member.
-/

namespace Registrar

namespace Json

/-- The same value, up to the order of members and the spelling of numbers. -/
inductive Alike (agree : Binary64 → Binary64 → Prop) : Json → Json → Prop
  | null : Alike agree null null
  | bool (value : Bool) : Alike agree (bool value) (bool value)
  | number {a b : Json} {x y : Binary64} (left : a.number? = some x) (right : b.number? = some y)
      (agrees : agree x y) : Alike agree a b
  | string (value : String) : Alike agree (string value) (string value)
  | array {as bs : List Json} (items : List.Forall₂ (Alike agree) as bs) :
      Alike agree (array as) (array bs)
  /-- Under every name the same value is found, or nothing. -/
  | object {as bs : List (String × Json)}
      (found : ∀ name, Option.Rel (Alike agree) (as.lookup name) (bs.lookup name)) :
      Alike agree (object as) (object bs)

namespace Alike

variable {agree : Binary64 → Binary64 → Prop} {as bs : List (String × Json)}

theorem empty : Alike agree (Json.object []) (Json.object []) :=
  object fun _ => .none

/-- Objects whose names are known are compared under these names. -/
theorem of_names {names : List String} (has : ∀ member ∈ as, member.1 ∈ names)
    (hbs : ∀ member ∈ bs, member.1 ∈ names)
    (h : ∀ name ∈ names, Option.Rel (Alike agree) (as.lookup name) (bs.lookup name)) :
    Alike agree (Json.object as) (Json.object bs) := by
  have hnone : ∀ members : List (String × Json), (∀ member ∈ members, member.1 ∈ names) →
      ∀ name, name ∉ names → members.lookup name = none := by
    intro members hmembers name hname
    rw [← Option.not_isSome_iff_eq_none, ← mem_names_iff, List.mem_map]
    rintro ⟨member, hmember, rfl⟩
    exact hname (hmembers member hmember)
  refine object fun name => ?_
  by_cases hname : name ∈ names
  · exact h name hname
  · rw [hnone as has name hname, hnone bs hbs name hname]
    exact .none

theorem single (name : String) {a b : Json} (h : Alike agree a b) :
    Alike agree (Json.object [(name, a)]) (Json.object [(name, b)]) := by
  have hname : ∀ (value : Json), ∀ member ∈ [(name, value)], member.1 ∈ [name] := by
    simp
  refine of_names (hname a) (hname b) fun other hother => ?_
  rw [List.mem_singleton.mp hother, List.lookup_cons_self, List.lookup_cons_self]
  exact .some h

/-- Objects of two members, in any order. -/
theorem of_perm_pair {x y : String} {a a' b b' : Json} (hxy : x ≠ y)
    (has : as.Perm [(x, a), (y, b)]) (hbs : bs.Perm [(x, a'), (y, b')]) (ha : Alike agree a a')
    (hb : Alike agree b b') : Alike agree (Json.object as) (Json.object bs) := by
  have hnames : ∀ {members : List (String × Json)} {c d : Json},
      members.Perm [(x, c), (y, d)] → ∀ member ∈ members, member.1 ∈ [x, y] := by
    intro members c d hperm member hmember
    have hmem := hperm.mem_iff.mp hmember
    simp only [List.mem_cons, List.not_mem_nil, or_false] at hmem ⊢
    exact hmem.imp (congrArg Prod.fst) (congrArg Prod.fst)
  obtain ⟨-, hax, hay⟩ := (perm_pair_iff hxy).mp has
  obtain ⟨-, hbx, hby⟩ := (perm_pair_iff hxy).mp hbs
  refine of_names (hnames has) (hnames hbs) fun name hname => ?_
  obtain rfl | hname := List.mem_cons.mp hname
  · rw [hax, hbx]
    exact .some ha
  · rw [List.mem_singleton.mp hname, hay, hby]
    exact .some hb

theorem strings (texts : List String) :
    Alike agree (Json.array (texts.map Json.string)) (Json.array (texts.map Json.string)) := by
  refine array (List.forall₂_same.mpr ?_)
  rw [List.forall_mem_map]
  exact fun text _ => string text

/-- Objects in order are the same value member by member. -/
theorem members (has : Sorted as) (hbs : Sorted bs)
    (h : Alike agree (Json.object as) (Json.object bs)) :
    List.Forall₂ (fun a b => a.1 = b.1 ∧ Alike agree a.2 b.2) as bs := by
  cases h with
  | number left => cases left
  | object found => exact has.forall₂ hbs found

end Alike

end Json

end Registrar
