import Registrar.Proofs.Json.Members
import Registrar.Proofs.Json.RoundTrip

/-!
# What is read from a text

A reader takes a text apart from its front, so what it leaves is an end of the text. It never makes
a value that could not be written: a number that is too large to be finite is refused, whole numbers
are exact only within 64 bits, and the nesting is limited. Every item of an array takes at least one
character, so the size of a text bounds the length of the arrays in it.

## Main definitions

* `Json.IsCanonical` — a value all of whose objects have their members in order, each once.

## Main results

* `Json.writable_of_scanValue` — a value that is read can be written again.
* `Json.parseFirst?_eq_some` — what is read from the front of a text.
-/

namespace Registrar

namespace Json

variable {text rest : List Char}

/-! ### Strings -/

theorem suffix_skipBlank (text : List Char) : skipBlank text <:+ text :=
  List.dropWhile_suffix _

theorem suffix_of_scanUnit {unit : Nat} (h : scanUnit text = some (unit, rest)) :
    rest <:+ text := by
  unfold scanUnit at h
  split at h
  · next a b c d rest' =>
    simp only [Option.bind_eq_bind, Option.bind_eq_some_iff, Option.some.injEq, Prod.mk.injEq] at h
    obtain ⟨-, -, -, -, -, -, -, -, -, rfl⟩ := h
    exact List.suffix_append [a, b, c, d] rest'
  · cases h

theorem suffix_of_scanUnits {c : Char} (h : scanUnits text = some (c, rest)) : rest <:+ text := by
  rw [scanUnits] at h
  obtain ⟨⟨unit, rest'⟩, hunit, h⟩ := Option.bind_eq_some_iff.mp h
  have hsuffix := suffix_of_scanUnit hunit
  dsimp only at h hsuffix
  split at h
  · split at h
    · obtain ⟨⟨low, rest''⟩, hlow, h⟩ := Option.bind_eq_some_iff.mp h
      dsimp only at h
      split at h
      · obtain ⟨-, rfl⟩ := Prod.mk.inj (Option.some.inj h)
        exact ((suffix_of_scanUnit hlow).trans (List.suffix_append ['\\', 'u'] _)).trans hsuffix
      · cases h
    · cases h
  split at h
  · cases h
  · obtain ⟨-, rfl⟩ := Prod.mk.inj (Option.some.inj h)
    exact hsuffix

theorem suffix_of_scanEscape {c : Char} (h : scanEscape text = some (c, rest)) : rest <:+ text := by
  unfold scanEscape at h
  split at h
  case h_9 => exact (suffix_of_scanUnits h).trans (List.suffix_cons _ _)
  case h_10 => cases h
  all_goals
    cases h
    exact List.suffix_cons _ _

theorem suffix_of_scanString {fuel : Nat} {cs : List Char}
    (h : scanString fuel text = some (cs, rest)) : rest <:+ text := by
  induction fuel generalizing text cs with
  | zero => cases h
  | succ fuel ih =>
    cases text with
    | nil => cases h
    | cons c text =>
      refine List.IsSuffix.trans ?_ (List.suffix_cons c text)
      rw [scanString] at h
      split at h
      · cases h
        exact List.suffix_refl _
      split at h
      · obtain ⟨⟨d, rest'⟩, hescape, h⟩ := Option.bind_eq_some_iff.mp h
        obtain ⟨⟨ds, rest''⟩, hstring, h⟩ := Option.bind_eq_some_iff.mp h
        cases h
        exact (ih hstring).trans (suffix_of_scanEscape hescape)
      split at h
      · cases h
      · obtain ⟨⟨ds, rest''⟩, hstring, h⟩ := Option.bind_eq_some_iff.mp h
        cases h
        exact ih hstring

/-! ### Numbers -/

theorem suffix_of_scanWhole {digits : List Char} (h : scanWhole text = some (digits, rest)) :
    rest <:+ text := by
  rw [scanWhole] at h
  split at h
  · cases h
  · cases h
    exact List.drop_suffix 1 text
  · cases h
  · cases h
    exact List.dropWhile_suffix _

theorem suffix_of_scanFraction {fraction : Option (List Char)}
    (h : scanFraction text = some (fraction, rest)) : rest <:+ text := by
  unfold scanFraction at h
  split at h
  · dsimp only at h
    split at h
    · cases h
    · cases h
      exact (List.dropWhile_suffix _).trans (List.suffix_cons _ _)
  · cases h
    exact List.suffix_refl _

theorem suffix_splitSign (text : List Char) : (Decimal.splitSign text).2 <:+ text := by
  unfold Decimal.splitSign
  split
  · exact List.suffix_cons _ _
  · exact List.suffix_cons _ _
  · exact List.suffix_refl _

theorem suffix_of_scanExponent {exponent : Option Int}
    (h : scanExponent text = some (exponent, rest)) : rest <:+ text := by
  unfold scanExponent at h
  split at h
  · cases h
    exact List.suffix_refl _
  split at h
  · dsimp only at h
    split at h
    · cases h
    · cases h
      exact ((List.dropWhile_suffix _).trans (suffix_splitSign _)).trans (List.suffix_cons _ _)
  · cases h
    exact List.suffix_refl _

theorem suffix_splitMinus (text : List Char) : (splitMinus text).2 <:+ text := by
  unfold splitMinus
  split
  · exact List.suffix_cons _ _
  · exact List.suffix_refl _

/-- A whole number is exact only if it can be written as it is. -/
theorem writable_ofDigits {depth n : Nat} (negative : Bool) (h : n < twoPow 64) :
    Writable depth (ofDigits negative n) := by
  rw [ofDigits]
  split
  · split
    · exact .integer (by omega) (by omega)
    · exact .real (Binary64.isFinite_neg (Binary64.isFinite_ofNat h))
  · exact .integer (by omega) (by omega)

/-- A number is refused if it is not finite. -/
theorem writable_of_ofParts? {depth : Nat} {negative : Bool} {whole : List Char}
    {fraction : Option (List Char)} {exponent : Option Int} {value : Json}
    (h : ofParts? negative whole fraction exponent = some value) : Writable depth value := by
  rw [ofParts?] at h
  split at h
  · next hwhole =>
    simp only [Bool.and_eq_true, decide_eq_true_eq] at hwhole
    exact Option.some.inj h ▸ writable_ofDigits negative hwhole.2
  · obtain ⟨x, hx, rfl⟩ := Option.map_eq_some_iff.mp h
    exact .real (Binary64.isFinite_of_ofDigits? hx)

theorem writable_of_scanNumber {depth : Nat} {value : Json}
    (h : scanNumber text = some (value, rest)) : Writable depth value := by
  rw [scanNumber] at h
  obtain ⟨⟨whole, rest₁⟩, -, h⟩ := Option.bind_eq_some_iff.mp h
  obtain ⟨⟨fraction, rest₂⟩, -, h⟩ := Option.bind_eq_some_iff.mp h
  obtain ⟨⟨exponent, rest₃⟩, -, h⟩ := Option.bind_eq_some_iff.mp h
  obtain ⟨value', hvalue, h⟩ := Option.bind_eq_some_iff.mp h
  cases h
  exact writable_of_ofParts? hvalue

theorem suffix_of_scanNumber {value : Json} (h : scanNumber text = some (value, rest)) :
    rest <:+ text := by
  rw [scanNumber] at h
  obtain ⟨⟨whole, rest₁⟩, hwhole, h⟩ := Option.bind_eq_some_iff.mp h
  obtain ⟨⟨fraction, rest₂⟩, hfraction, h⟩ := Option.bind_eq_some_iff.mp h
  obtain ⟨⟨exponent, rest₃⟩, hexponent, h⟩ := Option.bind_eq_some_iff.mp h
  obtain ⟨value', -, h⟩ := Option.bind_eq_some_iff.mp h
  cases h
  exact ((((suffix_of_scanExponent hexponent).trans (suffix_of_scanFraction hfraction)).trans
    (suffix_of_scanWhole hwhole)).trans (suffix_splitMinus text))

/-! ### Values -/

/-- What is left after blanks and a token. -/
theorem suffix_after (token : List Char) (h : skipBlank text = token ++ rest) : rest <:+ text :=
  (List.suffix_append token rest).trans (h ▸ suffix_skipBlank text)

theorem length_after {c : Char} (h : skipBlank text = c :: rest) : rest.length < text.length :=
  (suffix_skipBlank text).length_le.trans_lt' (h ▸ Nat.lt_succ_self rest.length)

mutual

/-- **A value that is read can be written again**, and what is left is an end of the text. -/
theorem writable_of_scanValue : ∀ {fuel depth : Nat} {text rest : List Char} {value : Json},
    scanValue fuel depth text = some (value, rest) → Writable depth value ∧ rest <:+ text
  | 0, _, _, _, _, h => nomatch h
  | fuel + 1, depth, text, rest, value, h => by
    rw [scanValue] at h
    split at h
    · next heq =>
      cases h
      exact ⟨.null, suffix_after ['n', 'u', 'l', 'l'] heq⟩
    · next heq =>
      cases h
      exact ⟨.bool true, suffix_after ['t', 'r', 'u', 'e'] heq⟩
    · next heq =>
      cases h
      exact ⟨.bool false, suffix_after ['f', 'a', 'l', 's', 'e'] heq⟩
    · next heq =>
      obtain ⟨⟨cs, rest'⟩, hstring, h⟩ := Option.bind_eq_some_iff.mp h
      cases h
      exact ⟨.string _, (suffix_of_scanString hstring).trans (suffix_after ['"'] heq)⟩
    · next heq =>
      have hopen := suffix_after ['['] heq
      split at h
      · cases h
      · next hclose =>
        cases h
        exact ⟨.array fun _ hitem => (nomatch hitem), (suffix_after [']'] hclose).trans hopen⟩
      · obtain ⟨⟨items, rest'⟩, hitems, h⟩ := Option.bind_eq_some_iff.mp h
        cases h
        obtain ⟨hwritable, hsuffix, -⟩ := writable_of_scanItems hitems
        exact ⟨.array hwritable, (hsuffix.trans (suffix_skipBlank _)).trans hopen⟩
    · next heq =>
      have hopen := suffix_after ['\x7b'] heq
      split at h
      · cases h
      · next hclose =>
        cases h
        exact ⟨.object fun _ hmember => (nomatch hmember),
          (suffix_after ['\x7d'] hclose).trans hopen⟩
      · obtain ⟨⟨members, rest'⟩, hmembers, h⟩ := Option.bind_eq_some_iff.mp h
        cases h
        obtain ⟨hwritable, hsuffix⟩ := writable_of_scanMembers hmembers
        exact ⟨.object hwritable, (hsuffix.trans (suffix_skipBlank _)).trans hopen⟩
    · exact ⟨writable_of_scanNumber h, (suffix_of_scanNumber h).trans (suffix_skipBlank text)⟩

/-- Every item takes at least one character of the text. -/
theorem writable_of_scanItems : ∀ {fuel depth : Nat} {text rest : List Char} {items : List Json},
    scanItems fuel depth text = some (items, rest) → (∀ item ∈ items, Writable depth item) ∧
      rest <:+ text ∧ items.length + rest.length ≤ text.length
  | 0, _, _, _, _, h => nomatch h
  | fuel + 1, depth, text, rest, items, h => by
    rw [scanItems] at h
    obtain ⟨⟨item, rest₁⟩, hitem, h⟩ := Option.bind_eq_some_iff.mp h
    obtain ⟨hwritable, hsuffix⟩ := writable_of_scanValue hitem
    dsimp only at h
    split at h
    · next rest₂ heq =>
      cases h
      have hshorter := (length_after heq).trans_le hsuffix.length_le
      refine ⟨List.forall_mem_singleton.mpr hwritable, (suffix_after [']'] heq).trans hsuffix, ?_⟩
      rw [List.length_singleton, Nat.add_comm]
      exact hshorter
    · next rest₂ heq =>
      obtain ⟨⟨items', rest₃⟩, hitems, h⟩ := Option.bind_eq_some_iff.mp h
      cases h
      obtain ⟨hwritables, hsuffix', hlength⟩ := writable_of_scanItems hitems
      have hshorter := (length_after heq).trans_le hsuffix.length_le
      refine ⟨List.forall_mem_cons.mpr ⟨hwritable, hwritables⟩,
        (hsuffix'.trans (suffix_after [','] heq)).trans hsuffix, ?_⟩
      rw [List.length_cons]
      dsimp only at hlength ⊢
      omega
    · cases h

/-- The values of the members, however often a name is written. -/
theorem writable_of_scanMembers : ∀ {fuel depth : Nat} {text rest : List Char}
    {members : List (String × Json)}, scanMembers fuel depth text = some (members, rest) →
    (∀ member ∈ members, Writable depth member.2) ∧ rest <:+ text
  | 0, _, _, _, _, h => nomatch h
  | fuel + 1, depth, text, rest, members, h => by
    rw [scanMembers] at h
    split at h
    · next heq =>
      obtain ⟨⟨name, rest₁⟩, hname, h⟩ := Option.bind_eq_some_iff.mp h
      have hopen := (suffix_of_scanString hname).trans (suffix_after ['"'] heq)
      dsimp only at h hopen
      split at h
      · next hcolon =>
        obtain ⟨⟨value, rest₂⟩, hvalue, h⟩ := Option.bind_eq_some_iff.mp h
        obtain ⟨hwritable, hsuffix⟩ := writable_of_scanValue hvalue
        have hrest := (hsuffix.trans (suffix_after [':'] hcolon)).trans hopen
        dsimp only at h hrest
        split at h
        · next hclose =>
          cases h
          exact ⟨List.forall_mem_singleton.mpr hwritable,
            (suffix_after ['\x7d'] hclose).trans hrest⟩
        · next hcomma =>
          obtain ⟨⟨members', rest₃⟩, hmembers, h⟩ := Option.bind_eq_some_iff.mp h
          cases h
          obtain ⟨hwritables, hsuffix'⟩ := writable_of_scanMembers hmembers
          exact ⟨List.forall_mem_cons.mpr ⟨hwritable, hwritables⟩,
            (hsuffix'.trans (suffix_after [','] hcomma)).trans hrest⟩
        · cases h
      · cases h
    · cases h

end

/-- An array has no more items than its text has characters. -/
theorem length_items_of_scanValue {fuel depth : Nat} {items : List Json}
    (h : scanValue fuel depth text = some (array items, rest)) : items.length ≤ text.length := by
  cases fuel with
  | zero => cases h
  | succ fuel =>
    rw [scanValue] at h
    split at h
    · cases h
    · cases h
    · cases h
    · obtain ⟨⟨cs, rest'⟩, -, h⟩ := Option.bind_eq_some_iff.mp h
      cases h
    · next heq =>
      have hopen := suffix_after ['['] heq
      split at h
      · cases h
      · cases h
        exact Nat.zero_le _
      · obtain ⟨⟨items, rest'⟩, hitems, h⟩ := Option.bind_eq_some_iff.mp h
        cases h
        obtain ⟨-, -, hlength⟩ := writable_of_scanItems hitems
        exact (Nat.le_of_add_right_le hlength).trans
          ((suffix_skipBlank _).length_le.trans hopen.length_le)
    · split at h
      · cases h
      · cases h
      · obtain ⟨⟨members, rest'⟩, -, h⟩ := Option.bind_eq_some_iff.mp h
        cases h
    · have hscalar : Writable 0 (array items) := writable_of_scanNumber h
      cases hscalar

/-! ### Canonical form -/

theorem canonicalItems_eq_map (items : List Json) : canonicalItems items = items.map canonical := by
  induction items with
  | nil => rfl
  | cons item items ih => rw [canonicalItems, ih, List.map_cons]

theorem canonicalMembers_eq_map (members : List (String × Json)) :
    canonicalMembers members = members.map fun member => (member.1, member.2.canonical) := by
  induction members with
  | nil => rfl
  | cons member members ih => rw [canonicalMembers, ih, List.map_cons]

/-- A value all of whose objects have their members in order, each once. -/
def IsCanonical (value : Json) : Prop :=
  ∃ written : Json, written.canonical = value

theorem IsCanonical.sorted {members : List (String × Json)} (h : IsCanonical (object members)) :
    Sorted members := by
  obtain ⟨written, hwritten⟩ := h
  cases written with
  | object members' =>
    cases hwritten
    exact sorted_sortMembers _
  | null | bool | integer | real | string | array => cases hwritten

theorem IsCanonical.of_mem {items : List Json} (h : IsCanonical (array items)) {item : Json}
    (hitem : item ∈ items) : IsCanonical item := by
  obtain ⟨written, hwritten⟩ := h
  cases written with
  | array items' =>
    cases hwritten
    rw [canonicalItems_eq_map] at hitem
    obtain ⟨item', -, rfl⟩ := List.mem_map.mp hitem
    exact ⟨item', rfl⟩
  | null | bool | integer | real | string | object => cases hwritten

theorem Writable.canonical {depth : Nat} {value : Json} (h : Writable depth value) :
    Writable depth value.canonical := by
  induction h with
  | null => exact .null
  | bool value => exact .bool value
  | integer low high => exact .integer low high
  | real finite => exact .real finite
  | string text => exact .string text
  | array _ ih =>
    rw [Json.canonical, canonicalItems_eq_map]
    exact .array (List.forall_mem_map.mpr ih)
  | object _ ih =>
    rw [Json.canonical, canonicalMembers_eq_map]
    refine .object fun member hmember => ?_
    obtain ⟨member', hmember', rfl⟩ := List.mem_map.mp (of_mem_sortMembers hmember)
    exact ih member' hmember'

/-! ### Texts -/

/-- **What is read from the front of a text**: a value in canonical form that can be written again,
with no more items than the text has characters. -/
theorem parseFirst?_eq_some {text : String} {value : Json} (h : parseFirst? text = some value) :
    value.IsCanonical ∧ Writable nestingLimit value ∧
      ∀ items, value = array items → items.length ≤ text.length := by
  obtain ⟨⟨written, rest⟩, hfront, rfl⟩ := Option.map_eq_some_iff.mp h
  refine ⟨⟨written, rfl⟩, (writable_of_scanValue hfront).1.canonical, fun items hitems => ?_⟩
  cases written with
  | array written =>
    cases hitems
    rw [canonicalItems_eq_map, List.length_map, ← String.length_toList]
    exact length_items_of_scanValue hfront
  | null | bool | integer | real | string | object => cases hitems

end Json

end Registrar
