import Registrar.Query.Defect
import Registrar.Query.Distinct

/-!
# Grouping

Records with the same values in the group fields form a group. Groups come in the order in which
their first records come, and records keep their order inside a group. The values of a group are
those of its first record.

## Main definitions

* `Group` — the values of the group fields, and the records.
* `groupRecords` — the groups of a list of records.
-/

namespace Registrar

variable {α : Type} [HasFields α]

/-- Records with the same values in the group fields. -/
structure Group (α : Type) where
  /-- The values, in the order of the group fields. -/
  key : List FieldValue
  members : List α
deriving Repr

/-- The value of a record in a field. -/
def lookupField (key : FieldKey) (record : α) : Except Defect FieldValue :=
  match field? record key.field with
  | some value => .ok value
  | none => .error (.noField key)

/-- A record with its values in the group fields. -/
def keyed (keys : List FieldKey) (record : α) : Except Defect (List FieldValue × α) := do
  let values ← keys.mapM fun key => lookupField key record
  return (values, record)

/-- What tells groups apart: the values, zeros without their sign. -/
def identity (entry : List FieldValue × α) : List FieldValue :=
  entry.1.map FieldValue.fold

/-- The groups of records whose values are known. -/
def groupsOf (entries : List (List FieldValue × α)) : List (Group α) :=
  let identified := entries.map fun entry => (identity entry, entry)
  (firstsBy Prod.fst [] identified).map fun first =>
    ⟨first.2.1, (identified.filter fun entry => entry.1 = first.1).map fun entry => entry.2.2⟩

/-- The groups of a list of records. -/
def groupRecords (keys : List FieldKey) (records : List α) : Except Defect (List (Group α)) :=
  (records.mapM (keyed keys)).map groupsOf

end Registrar
