import Registrar.Proofs.Dataset.Reading
import Registrar.Proofs.Query.Typing

/-!
# Records hold what was uploaded

Three tables name the fields of a kind of records: the layout, by which records are read, the fields
themselves, by which a record is asked, and the schema, by which queries are checked. They are
written independently of each other. Here they are shown to agree, and from this it follows what a
dataset answers for an upload: under every name of the schema the member of that name, and nothing
under any other name.

In an item that is an array, the member of a name is the one at the place of the name in the layout.

## Main definitions

* `DatasetKind.member?` — the member of an item under a name.
* `Record.TakenFrom` — a record has the members of an item for its fields.

## Main results

* `DatasetKind.fieldKind?_eq_some_iff` — the schema lists the fields of the layout.
* `RecordSet.ofJson_strict_and_faithful` — what is read, and what it is made of.
-/

namespace Registrar

/-! ### One set of fields -/

namespace DatasetKind

/-- **The schema lists the fields of the layout**, with the same kinds. -/
theorem fieldKind?_eq_some_iff (kind : DatasetKind) {name : String} {fieldKind : FieldKind} :
    kind.schema.fieldKind? name = some fieldKind ↔ ⟨name, fieldKind⟩ ∈ kind.layout := by
  have hmeasures : ∀ name ∈ kind.schema.measures, ⟨name, .measure⟩ ∈ kind.layout := by
    cases kind <;> decide
  have hstrings : ∀ name ∈ kind.schema.strings, ⟨name, .text⟩ ∈ kind.layout := by
    cases kind <;> decide
  have hlayout : ∀ spec ∈ kind.layout, kind.schema.fieldKind? spec.name = some spec.kind := by
    cases kind <;> decide
  refine ⟨fun h => ?_, fun h => hlayout _ h⟩
  obtain ⟨hname, rfl⟩ | ⟨-, hname, rfl⟩ := Schema.fieldKind?_eq_some_iff.mp h
  · exact hmeasures name hname
  · exact hstrings name hname

/-- The member of an item under a name. The items of an array have the names of the layout, in its
order. -/
def member? (kind : DatasetKind) (item : Json) (name : String) : Option Json :=
  match item with
  | .object members => members.lookup name
  | .array items => (nameItems kind.layout items).lookup name
  | _ => none

end DatasetKind

namespace Record

/-- A written record has the members of the item for its fields. -/
theorem WrittenAs.member? {record : Record} {item : Json} (h : record.WrittenAs item) :
    ∀ spec ∈ record.kind.layout,
      (record.kind.member? item spec.name).bind spec.kind.value? = record.field? spec.name := by
  cases h with
  | object h => exact h
  | array h =>
    exact (eq_value?_nameItems_iff _ record.kind.nodup_layout h.length_eq.symm).mpr h

/-- What a record of the given kind has for its fields if it is made of an item. -/
structure TakenFrom (record : Record) (kind : DatasetKind) (item : Json) : Prop where
  kind_eq : record.kind = kind
  /-- Under a name of the schema there is the member of that name, as a value of the kind that the
  schema gives. -/
  field_eq : ∀ name fieldKind, kind.schema.fieldKind? name = some fieldKind →
    ∃ member value, kind.member? item name = some member ∧
      fieldKind.value? member = some value ∧ record.field? name = some value
  /-- Under any other name there is nothing. -/
  field_eq_none : ∀ name, kind.schema.fieldKind? name = none → record.field? name = none

theorem WrittenAs.takenFrom {record : Record} {item : Json} (h : record.WrittenAs item) :
    record.TakenFrom record.kind item where
  kind_eq := rfl
  field_eq name fieldKind hkind := by
    have hspec := record.kind.fieldKind?_eq_some_iff.mp hkind
    have hmember := h.member? _ hspec
    obtain ⟨value, hvalue⟩ := Option.isSome_iff_exists.mp (record.isSome_field? _ hspec)
    rw [hvalue] at hmember
    obtain ⟨member, hfound, hread⟩ := Option.bind_eq_some_iff.mp hmember
    exact ⟨member, value, hfound, hread, hvalue⟩
  field_eq_none name hnone := by
    rw [Option.eq_none_iff_forall_ne_some]
    intro value hvalue
    obtain ⟨⟨_, fieldKind⟩, hspec, rfl⟩ := exists_spec_of_field? hvalue
    rw [record.kind.fieldKind?_eq_some_iff.mpr hspec] at hnone
    cases hnone

end Record

/-! ### Uploads -/

namespace RecordSet

/-- **Reading records is strict and faithful.** Records are read exactly from an array of which
every item writes a complete record of the kind: an object that has every field of the kind with its
type, or an array of just these values in the order of the layout. The fields of the layout are
those of the schema. The records that are read are of the kind, as many as the items and in their
order; the i-th one has for each field of the schema the member of that name of the i-th item, and
no other field. -/
theorem ofJson_strict_and_faithful (kind : DatasetKind) {value : Json} (h : value.IsCanonical) :
    ((∃ set, ofJson kind value = .ok set) ↔
      ∃ items, value = .array items ∧ ∀ item ∈ items, IsRecord kind item) ∧
    (∀ name fieldKind, kind.schema.fieldKind? name = some fieldKind ↔
      ⟨name, fieldKind⟩ ∈ kind.layout) ∧
    ∀ set, ofJson kind value = .ok set → set.kind = kind ∧ ∃ items, value = .array items ∧
      set.length = items.length ∧
      List.Forall₂ (fun record item => record.TakenFrom kind item) set.toList items := by
  refine ⟨exists_ofJson_iff h, fun name fieldKind => kind.fieldKind?_eq_some_iff,
    fun set hset => ?_⟩
  obtain ⟨rfl, items, rfl, hrecords⟩ := (ofJson_eq_ok_iff h).mp hset
  refine ⟨rfl, items, rfl, ?_, ?_⟩
  · rw [← length_toList, hrecords.length_eq]
  · refine ((List.forall₂_and_left _ _).mpr ⟨fun record => kind_of_mem_toList, hrecords⟩).imp ?_
    rintro record item ⟨hkind, hwritten⟩
    exact hkind ▸ hwritten.takenFrom

/-- Two rooms, one written with names and one without. The first has a member that is no field, and
whole numbers for its measures. -/
theorem ofJson_strict_and_faithful_rooms :
    let named : Json := .object [("address", .string "Mall 1"), ("floor", .integer 2),
      ("fullname", .string "Dempster"), ("furniture", .string "fixed"), ("href", .string "/1"),
      ("lat", .integer 49), ("lon", .integer (-123)), ("name", .string "DMP_1"),
      ("number", .string "1"), ("seats", .integer 40), ("shortname", .string "DMP"),
      ("type", .string "lab")]
    let listed : Json := .array [.string "Dempster", .string "DMP", .string "2", .string "DMP_2",
      .string "Mall 1", .integer 49, .integer (-123), .integer 60, .string "hall",
      .string "movable", .string "/2"]
    (Json.array [named, listed]).IsCanonical ∧
      ∃ set, ofJson .rooms (.array [named, listed]) = .ok set ∧ set.kind = .rooms ∧
        ∃ first second, set.toList = [first, second] ∧
          first.field? "type" = some (.text "lab") ∧ first.field? "floor" = none ∧
          second.field? "type" = some (.text "hall") ∧
          second.field? "seats" = some (.number (.ofInt 60)) := by
  intro named listed
  have hcanonical : (Json.array [named, listed]).IsCanonical := ⟨.array [named, listed], by rfl⟩
  have hrecords : ∀ item ∈ [named, listed], IsRecord .rooms item := by
    rw [List.forall_mem_cons, List.forall_mem_singleton]
    refine ⟨.object (by decide), .array ?_⟩
    simp [DatasetKind.layout, Room.layout, FieldKind.value?, Json.string?, Json.number?]
  obtain ⟨hread, -, htaken⟩ := ofJson_strict_and_faithful .rooms hcanonical
  obtain ⟨set, hset⟩ := hread.mpr ⟨_, rfl, hrecords⟩
  obtain ⟨hkind, _, ⟨⟩, -, hitems⟩ := htaken set hset
  obtain ⟨first, _, hfirst, hrest, hlist⟩ := List.forall₂_cons_right_iff.mp hitems
  obtain ⟨second, _, hsecond, hnone, rfl⟩ := List.forall₂_cons_right_iff.mp hrest
  obtain rfl := List.forall₂_nil_right_iff.mp hnone
  refine ⟨hcanonical, set, hset, hkind, first, second, hlist, ?_, hfirst.field_eq_none _ rfl, ?_,
    ?_⟩
  · obtain ⟨_, _, ⟨⟩, ⟨⟩, htype⟩ := hfirst.field_eq "type" .text rfl
    exact htype
  · obtain ⟨_, _, ⟨⟩, ⟨⟩, htype⟩ := hsecond.field_eq "type" .text rfl
    exact htype
  · obtain ⟨_, _, ⟨⟩, ⟨⟩, hseats⟩ := hsecond.field_eq "seats" .measure rfl
    exact hseats

end RecordSet

end Registrar
