import Registrar.Query.Defect
import Registrar.Query.Distinct

/-!
# Selecting records

A filter narrows a list of records, each with its position among all records. A negation takes away
what its inner filter selects, a conjunction narrows branch by branch, and a disjunction collects
what its branches select from the same list, each record once, in the order in which it is first
found.

Positions tell records apart, so equal records at different positions stay different.

## Main definitions

* `Filter.select` — narrows a list of records with positions.
* `Filter.evaluate` — the records that match.
-/

namespace Registrar

variable {α : Type} [HasFields α]

/-- The number of the record in a field. -/
def numberAt (key : FieldKey) (record : α) : Except Defect Binary64 :=
  match (field? record key.field).bind FieldValue.number? with
  | some value => .ok value
  | none => .error (.noFieldOfKind .measure key)

/-- The text of the record in a field. -/
def textAt (key : FieldKey) (record : α) : Except Defect String :=
  match (field? record key.field).bind FieldValue.text? with
  | some value => .ok value
  | none => .error (.noFieldOfKind .text key)

/-- Keeps the records that pass a test; the first defect ends it. -/
def retain (test : α → Except Defect Bool) : List (α × Nat) → Except Defect (List (α × Nat))
  | [] => .ok []
  | entry :: entries => do
    let keep ← test entry.1
    let kept ← retain test entries
    return if keep then entry :: kept else kept

/-- The records at positions that are not among the excluded ones. -/
def without (excluded entries : List (α × Nat)) : List (α × Nat) :=
  let positions := excluded.map Prod.snd
  entries.filter fun entry => !positions.contains entry.2

namespace Filter

mutual

/-- The records of a list that match a filter. -/
def select : Filter → List (α × Nat) → Except Defect (List (α × Nat))
  | all, entries => .ok entries
  | not inner, entries => do
    let excluded ← select inner entries
    return without excluded entries
  | and branches, entries => selectAll branches entries
  | or branches, entries => do
    let found ← selectEach branches entries
    return firstsBy Prod.snd [] found
  | compare op key operand, entries =>
    retain (fun record => (numberAt key record).map fun actual => op.holds actual operand) entries
  | accepts key pattern, entries =>
    retain (fun record => (textAt key record).map pattern.accepts) entries

/-- Narrows by one branch after the other. -/
def selectAll : List Filter → List (α × Nat) → Except Defect (List (α × Nat))
  | [], entries => .ok entries
  | branch :: branches, entries => do
    let narrowed ← select branch entries
    selectAll branches narrowed

/-- What each branch selects, one after the other. -/
def selectEach : List Filter → List (α × Nat) → Except Defect (List (α × Nat))
  | [], _ => .ok []
  | branch :: branches, entries => do
    let found ← select branch entries
    let rest ← selectEach branches entries
    return found ++ rest

end

/-- The records that match a filter. -/
def evaluate (filter : Filter) (records : List α) : Except Defect (List α) :=
  (filter.select records.zipIdx).map fun entries => entries.map Prod.fst

end Filter

end Registrar
