import Registrar.Http.Service
import Registrar.Proofs.Dataset.Reading
import Registrar.Proofs.Number.Finite
import Registrar.Proofs.Storage.Refinement

/-!
# What an upload brings

Records arrive in the body of a request. What can be read from it can be stored and read from its
file: a reader never makes a number that is not finite, and a body of limited size holds no more
records than can be counted.

## Main results

* `Request.jsonBody_eq_ok` — what the body of a request is.
* `Service.exists_recordsOf_iff` — when a body holds records.
* `Service.legible_of_recordsOf` — the records in a body can be read from a file.
-/

namespace Registrar

/-! ### Bodies -/

/-- **A body is read in canonical form, and it is no longer than allowed.** -/
theorem Request.jsonBody_eq_ok {request : Request} {limit : Nat} {body : Json}
    (h : request.jsonBody limit = .ok body) :
    body.IsCanonical ∧ Json.Writable Json.nestingLimit body ∧
      ∀ items, body = .array items → items.length ≤ limit := by
  rw [jsonBody] at h
  split at h
  · cases h
  split at h
  · cases h
  next hsize =>
  split at h
  · next value hparse =>
    cases h
    obtain ⟨hcanonical, hwritable, hlength⟩ := Json.parseFirst?_eq_some hparse
    refine ⟨hcanonical, hwritable, fun items hitems => (hlength items hitems).trans ?_⟩
    exact (length_le_utf8ByteSize request.body).trans (Nat.le_of_not_lt hsize)
  · cases h

/-! ### Finite numbers -/

/-- A number that can be written is finite. -/
theorem Json.Writable.isFinite_of_value? {depth : Nat} {value : Json} (h : Writable depth value)
    {kind : FieldKind} {x : Binary64} (hx : kind.value? value = some (.number x)) :
    x.isFinite = true := by
  cases kind with
  | text =>
    obtain ⟨_, -, htext⟩ := Option.map_eq_some_iff.mp hx
    cases htext
  | measure =>
    obtain ⟨_, hnumber, hsame⟩ := Option.map_eq_some_iff.mp hx
    cases hsame
    cases h with
    | integer low high => exact Option.some.inj hnumber ▸ Binary64.isFinite_ofInt low high
    | real finite => exact Option.some.inj hnumber ▸ finite
    | null | bool | string | array | object => cases hnumber

/-- **The numbers of a record that is written so are finite.** -/
theorem Record.WrittenAs.isFinite {record : Record} {depth : Nat} {value : Json}
    (h : record.WrittenAs value) (hwritable : Json.Writable depth value) : record.IsFinite := by
  intro name x hx
  obtain ⟨spec, hspec, rfl⟩ := Record.exists_spec_of_field? hx
  cases h with
  | object h =>
    obtain ⟨value, hlookup, hvalue⟩ := Option.bind_eq_some_iff.mp ((h spec hspec).trans hx)
    obtain ⟨before, after, hsplit, -⟩ := List.lookup_eq_some_iff.mp hlookup
    cases hwritable with
    | object hmembers =>
      have hmember := hmembers (spec.name, value)
        (hsplit ▸ List.mem_append_right before List.mem_cons_self)
      exact hmember.isFinite_of_value? hvalue
  | array h =>
    obtain ⟨item, hitem, hvalue⟩ := exists_of_mem_forall₂ h.flip hspec
    cases hwritable with
    | array hitems => exact (hitems item hitem).isFinite_of_value? (hvalue.trans hx)

/-! ### Records in a body -/

namespace Service

variable {kind : DatasetKind} {body : Json} {records : RecordSet}

theorem recordsOf_eq_ok_iff :
    recordsOf kind body = .ok records ↔ RecordSet.ofJson kind body = .ok records := by
  cases body with
  | array items => rw [recordsOf, mapError_eq_ok_iff]
  | null | bool | integer | real | string | object =>
    cases kind <;> simp [recordsOf, RecordSet.ofJson, RecordSet.readItems]

/-- **A body holds records exactly if every item of an array writes a complete one.** -/
theorem exists_recordsOf_iff (h : body.IsCanonical) :
    (∃ records, recordsOf kind body = .ok records) ↔
      ∃ items, body = .array items ∧ ∀ item ∈ items, IsRecord kind item := by
  simp only [recordsOf_eq_ok_iff]
  exact RecordSet.exists_ofJson_iff h

/-- A body without records is not valid. -/
theorem status_of_recordsOf {error : ApiError} (h : recordsOf kind body = .error error) :
    error.status = .badRequest := by
  cases body with
  | array items =>
    obtain ⟨fault, -, rfl⟩ := mapError_eq_error_iff.mp h
    rfl
  | null | bool | integer | real | string | object =>
    cases h
    rfl

/-- **The records in a body can be stored and read from their file.** -/
theorem legible_of_recordsOf {request : Request} {limit : Nat} (hlimit : limit < twoPow 64)
    (hbody : request.jsonBody limit = .ok body) (h : recordsOf kind body = .ok records)
    {now : Timestamp} (hnow : now.InRange) : Legible records now := by
  obtain ⟨hcanonical, hwritable, hlength⟩ := Request.jsonBody_eq_ok hbody
  obtain ⟨-, items, rfl, hrecords⟩ :=
    (RecordSet.ofJson_eq_ok_iff hcanonical).mp (recordsOf_eq_ok_iff.mp h)
  refine ⟨fun record hrecord => ?_, ?_, hnow⟩
  · obtain ⟨item, hitem, hwritten⟩ := exists_of_mem_forall₂ hrecords.flip hrecord
    cases hwritable with
    | array hitems => exact Record.WrittenAs.isFinite hwritten (hitems item hitem)
  · rw [← RecordSet.length_toList, hrecords.length_eq]
    exact (hlength items rfl).trans_lt hlimit

end Service

end Registrar
