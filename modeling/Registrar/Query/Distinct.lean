/-!
# First occurrences

A list without its repetitions: of items with the same image under a function the first one is kept,
and the items kept stay in order.

## Main definitions

* `firstsBy` — the first occurrences.
-/

namespace Registrar

variable {α β : Type} [DecidableEq β]

/-- The items whose image is neither in `seen` nor that of an earlier item. -/
def firstsBy (image : α → β) : List β → List α → List α
  | _, [] => []
  | seen, item :: items =>
    if seen.contains (image item) then firstsBy image seen items
    else item :: firstsBy image (image item :: seen) items

end Registrar
