import Mathlib.Data.List.TakeDrop
import Mathlib.Data.List.TakeWhile
import Registrar.Dataset.Identifier

/-!
# Qualified keys are read as they are written

An id holds no separator, so the first separator of a qualified key ends the id and nothing is lost
or added by splitting the key there.

## Main results

* `splitKey?_eq_some_iff` — a key splits into an id without a separator and a field name exactly if
  it is the key qualified by them.
* `isValidId_iff` — an id is valid if it is not blank and has no separator.
-/

namespace Registrar

theorem isValidId_iff {id : String} :
    isValidId id = true ↔ isBlankText id = false ∧ keySeparator ∉ id.toList := by
  rw [isValidId, Bool.and_eq_true, Bool.not_eq_true', Bool.not_eq_true', ← Bool.not_eq_true
    (List.contains _ _), List.contains_iff_mem]

theorem toList_qualify (id field : String) :
    (qualify id field).toList = id.toList ++ keySeparator :: field.toList := by
  simp [qualify, keySeparator]

/-- A key splits exactly into the parts that it is joined of. -/
theorem splitKey?_eq_some_iff {key id field : String} :
    splitKey? key = some (id, field) ↔ key = qualify id field ∧ keySeparator ∉ id.toList := by
  constructor
  · intro h
    rw [splitKey?] at h
    have happend := List.takeWhile_append_dropWhile (p := (· != keySeparator)) (l := key.toList)
    cases hrest : key.toList.dropWhile (· != keySeparator) with
    | nil => simp [hrest] at h
    | cons mark rest =>
      have hmark : mark = keySeparator := by
        have hhead :=
          List.head_dropWhile_not (· != keySeparator) (l := key.toList) (by simp [hrest])
        simpa [hrest] using hhead
      simp only [hrest, Option.some.injEq, Prod.mk.injEq] at h
      obtain ⟨rfl, rfl⟩ := h
      refine ⟨?_, fun hmem => ?_⟩
      · rw [hrest, hmark] at happend
        rw [← String.toList_inj, toList_qualify, String.toList_ofList, String.toList_ofList]
        exact happend.symm
      · rw [String.toList_ofList] at hmem
        simpa using List.mem_takeWhile_imp hmem
  · rintro ⟨rfl, hid⟩
    have hall : ∀ c ∈ id.toList, (c != keySeparator) = true := fun c hc => by
      simpa using ne_of_mem_of_not_mem hc hid
    rw [splitKey?, toList_qualify, List.dropWhile_append_of_pos hall,
      List.takeWhile_append_of_pos hall]
    simp

end Registrar
