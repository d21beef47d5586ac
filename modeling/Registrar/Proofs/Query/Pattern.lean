import Mathlib.Data.String.Basic
import Mathlib.Tactic.ByContra
import Registrar.Query.Pattern

/-!
# The texts of patterns

Which texts are patterns, and that the text of a pattern is the pattern written again: its stars are
those of the pattern, and the other characters are the literal.

## Main definitions

* `StarsAtEnds` — a text with stars at its ends only.

## Main results

* `Pattern.ofText?_isSome_iff` — exactly these texts are patterns.
* `Pattern.text_of_ofText?` — a pattern is written as its text.
-/

namespace Registrar

/-- Stars stand at the ends of a text only. -/
def StarsAtEnds (text : String) : Prop :=
  ∀ before after, text.toList = before ++ '*' :: after → before = [] ∨ after = []

/-- A star that is not at an end is one that is left when both ends are taken off. -/
theorem starsAtEnds_iff {text : String} :
    StarsAtEnds text ↔ '*' ∉ text.toList.tail.dropLast := by
  constructor
  · intro h hmem
    obtain ⟨before, after, hsplit⟩ := List.append_of_mem hmem
    cases htext : text.toList with
    | nil => simp [htext] at hmem
    | cons c rest =>
      rw [htext, List.tail_cons] at hsplit
      have hrest : rest ≠ [] := by
        rintro rfl
        simp at hsplit
      obtain ⟨last, hlast⟩ : ∃ last, rest = rest.dropLast ++ [last] :=
        ⟨rest.getLast hrest, (List.dropLast_append_getLast hrest).symm⟩
      have hwhole : text.toList = (c :: before) ++ '*' :: (after ++ [last]) := by
        rw [htext, hlast, hsplit]
        simp
      obtain hnil | hnil := h _ _ hwhole <;> simp at hnil
  · intro h before after htext
    by_contra hends
    rw [not_or] at hends
    obtain ⟨hbefore, hafter⟩ := hends
    refine h ?_
    cases before with
    | nil => exact absurd rfl hbefore
    | cons c before =>
      rw [htext, List.cons_append, List.tail_cons, List.dropLast_append_of_ne_nil (by simp),
        List.dropLast_cons_of_ne_nil hafter]
      exact List.mem_append_right before List.mem_cons_self

namespace Pattern

/-! ### Reading -/

theorem mem_splitLast {text : List Char} :
    '*' ∈ (splitLast text).2 ↔ '*' ∈ text.dropLast := by
  rw [splitLast]
  split
  · rfl
  · next hlast =>
    refine ⟨fun hmem => ?_, fun hmem => (List.dropLast_sublist text).subset hmem⟩
    have hne : text ≠ [] := List.ne_nil_of_mem hmem
    rw [List.getLast?_eq_some_getLast hne, Option.some_inj] at hlast
    rw [← List.dropLast_append_getLast hne, List.mem_append, List.mem_singleton] at hmem
    exact hmem.resolve_right (Ne.symm hlast)

theorem ofText?_isSome_iff {text : String} :
    (∃ pattern, ofText? text = some pattern) ↔ StarsAtEnds text := by
  have hliteral (leading : Bool) (rest : List Char) :
      (∃ pattern, (if (splitLast rest).2.contains '*' then none
        else some (Pattern.mk leading (splitLast rest).2 (splitLast rest).1)) = some pattern) ↔
        '*' ∉ rest.dropLast := by
    rw [← mem_splitLast, ← List.contains_iff_mem]
    cases (splitLast rest).2.contains '*' <;> simp
  rw [starsAtEnds_iff, ofText?]
  split
  · next leading rest hparts =>
    split at hparts
    · next htext =>
      cases hparts
      rw [htext]
      exact hliteral true _
    · next hother =>
      cases hparts
      refine (hliteral false _).trans (not_congr ?_)
      -- The first character is no star, so it makes no difference.
      cases htext : text.toList with
      | nil => rfl
      | cons c rest =>
        have hc : '*' ≠ c := fun hc => hother rest (hc ▸ htext)
        cases rest with
        | nil => simp
        | cons d rest => simp [hc]

/-- A text without stars is the literal of its pattern. -/
theorem ofText?_of_star_notMem {text : String} (h : '*' ∉ text.toList) :
    ofText? text = some ⟨false, text.toList, false⟩ := by
  have hlast : splitLast text.toList = (false, text.toList) :=
    if_neg fun hlast => h (List.mem_of_getLast? hlast)
  rw [ofText?]
  split
  next leading rest hparts =>
    split at hparts
    · next htext => exact absurd (htext ▸ List.mem_cons_self) h
    · cases hparts
      rw [hlast]
      exact if_neg (by simpa using h)

/-! ### Writing -/

theorem append_splitLast (text : List Char) :
    (splitLast text).2 ++ (if (splitLast text).1 then ['*'] else []) = text := by
  rw [splitLast]
  split
  · next hlast =>
    exact List.dropLast_append_getLast? '*' hlast
  · simp

/-- A pattern is written as the text that it was read from. -/
theorem text_of_ofText? {text : String} {pattern : Pattern} (h : ofText? text = some pattern) :
    pattern.text = text := by
  have hends {leading : Bool} {rest : List Char}
      (hrest : (if (splitLast rest).2.contains '*' then none
        else some (Pattern.mk leading (splitLast rest).2 (splitLast rest).1)) = some pattern) :
      pattern.text = String.ofList ((if leading then ['*'] else []) ++ rest) := by
    split at hrest
    · cases hrest
    · obtain rfl := Option.some_inj.mp hrest
      rw [Pattern.text, List.append_assoc, append_splitLast]
  rw [ofText?] at h
  split at h
  next leading rest hparts =>
    rw [hends h, ← String.toList_inj, String.toList_ofList]
    split at hparts
    · next htext =>
      cases hparts
      exact htext.symm
    · cases hparts
      rfl

end Pattern

end Registrar
