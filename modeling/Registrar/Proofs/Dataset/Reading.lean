import Registrar.Dataset.Reading
import Registrar.Proofs.Json.Parsing
import Registrar.Proofs.Outcome

/-!
# Records are read as they are written

A record can be written as an object, with the fields in any order and with other members among
them, or as an array of its fields in the order of the layout. Reading checks the members one by one
first and then looks for every field by its name. For values in canonical form, where no name stands
twice, both together ask for no more than this: every field is there with its type.

## Main definitions

* `FieldKind.value?` — the value of a field that is written so.
* `Writes` — a JSON value that writes given fields.
* `IsRecord` — a JSON value that writes a complete record of a kind.
* `Record.WrittenAs` — a JSON value that writes a record.

## Main results

* `recordMembers_bind_eq_ok_iff` — what one record is read from.
* `RecordSet.ofJson_eq_ok_iff` — what records are read.
* `RecordSet.exists_ofJson_iff` — when there are records to be read.
-/

namespace Registrar

/-! ### Fields -/

/-- The value of a field of this kind that is written so, if it has the right type. -/
def FieldKind.value? : FieldKind → Json → Option FieldValue
  | .measure, value => value.number?.map .number
  | .text, value => value.string?.map .text

/-- The value of a field among members. -/
def FieldSpec.value? (spec : FieldSpec) (members : List (String × Json)) : Option FieldValue :=
  (members.lookup spec.name).bind spec.kind.value?

section Fields

variable {members : List (String × Json)} {name : String}

theorem readText_eq_ok_iff {value : Json} {text : String} :
    readText value = .ok text ↔ FieldKind.text.value? value = some (.text text) := by
  cases value <;> simp [readText, FieldKind.value?, Json.string?]

theorem readMeasure_eq_ok_iff {value : Json} {x : Binary64} :
    readMeasure value = .ok x ↔ FieldKind.measure.value? value = some (.number x) := by
  rw [readMeasure, FieldKind.value?]
  cases value.number? <;> simp

theorem exists_readField {kind : FieldKind} {value : Json} (h : (kind.value? value).isSome) :
    ∃ field, readField kind value = .ok field := by
  cases kind with
  | measure =>
    rw [readField, readMeasure]
    cases hnumber : value.number? with
    | some x => exact ⟨.number x, rfl⟩
    | none =>
      rw [FieldKind.value?, hnumber] at h
      cases h
  | text =>
    cases value with
    | string text => exact ⟨.text text, rfl⟩
    | null | bool | integer | real | array | object => cases h

theorem requireField_text_eq_ok_iff {text : String} :
    requireField readText name members = .ok text ↔
      FieldSpec.value? ⟨name, .text⟩ members = some (.text text) := by
  rw [requireField, FieldSpec.value?]
  cases members.lookup name with
  | none => simp
  | some value => exact readText_eq_ok_iff

theorem requireField_measure_eq_ok_iff {x : Binary64} :
    requireField readMeasure name members = .ok x ↔
      FieldSpec.value? ⟨name, .measure⟩ members = some (.number x) := by
  rw [requireField, FieldSpec.value?]
  cases members.lookup name with
  | none => simp
  | some value => exact readMeasure_eq_ok_iff

end Fields

/-! ### Members -/

section Members

variable {layout : List FieldSpec} {members : List (String × Json)}

/-- Members pass the check if no name stands twice and the fields among them have their types. -/
theorem checkMembers_eq_ok {seen : List String} (hnodup : (members.map Prod.fst).Nodup)
    (hseen : ∀ name ∈ seen, name ∉ members.map Prod.fst)
    (h : ∀ member ∈ members, ∀ spec ∈ layout, spec.name = member.1 →
      (spec.kind.value? member.2).isSome) : checkMembers layout seen members = .ok () := by
  induction members generalizing seen with
  | nil => rfl
  | cons member members ih =>
    obtain ⟨name, value⟩ := member
    obtain ⟨hname, hnodup⟩ := List.nodup_cons.mp hnodup
    obtain ⟨hvalue, hmembers⟩ := List.forall_mem_cons.mp h
    have hrest : ∀ other ∈ seen, other ∉ members.map Prod.fst := fun other hother hmem =>
      hseen other hother (List.mem_cons_of_mem name hmem)
    rw [checkMembers]
    split
    · exact ih hnodup hrest hmembers
    · next spec hfind =>
      have hspec : spec.name = name := by simpa using List.find?_some hfind
      have hnew : seen.contains name = false := by
        rw [← Bool.not_eq_true, List.contains_iff_mem]
        exact fun hmem => hseen name hmem List.mem_cons_self
      obtain ⟨field, hfield⟩ :=
        exists_readField (hvalue spec (List.mem_of_find?_eq_some hfind) hspec)
      simp only [hnew, Bool.false_eq_true, if_false, hfield, bind_ok]
      exact ih hnodup (List.forall_mem_cons.mpr ⟨hname, hrest⟩) hmembers

/-- Where every field is found, all members pass the check. -/
theorem checkMembers_of_complete (hnodup : (members.map Prod.fst).Nodup)
    (h : ∀ spec ∈ layout, (spec.value? members).isSome) :
    checkMembers layout [] members = .ok () := by
  refine checkMembers_eq_ok hnodup (List.forall_mem_nil _) fun member hmember spec hspec hname => ?_
  have hvalue := h spec hspec
  rwa [FieldSpec.value?, hname, lookup_of_mem hnodup hmember, Option.bind_some] at hvalue

/-- The items of an array are found under the names of the fields. -/
theorem forall_value?_nameItems_iff (P : FieldSpec → Option FieldValue → Prop) {items : List Json}
    (hnodup : (layout.map FieldSpec.name).Nodup) (hlength : items.length = layout.length) :
    (∀ spec ∈ layout, P spec (spec.value? (nameItems layout items))) ↔
      List.Forall₂ (fun spec item => P spec (spec.kind.value? item)) layout items := by
  induction layout generalizing items with
  | nil => simp [List.length_eq_zero_iff.mp hlength]
  | cons spec layout ih =>
    cases items with
    | nil => cases hlength
    | cons item items =>
      obtain ⟨hname, hnodup⟩ := List.nodup_cons.mp hnodup
      have hnamed : nameItems (spec :: layout) (item :: items) =
          (spec.name, item) :: nameItems layout items := rfl
      have hfirst : spec.value? (nameItems (spec :: layout) (item :: items)) =
          spec.kind.value? item := by
        rw [hnamed, FieldSpec.value?, lookup_cons_eq_ite, if_pos rfl, Option.bind_some]
      have hothers : ∀ other ∈ layout, other.value? (nameItems (spec :: layout) (item :: items)) =
          other.value? (nameItems layout items) := by
        intro other hother
        rw [hnamed, FieldSpec.value?, lookup_cons_eq_ite,
          if_neg fun heq => hname (List.mem_map.mpr ⟨other, hother, heq⟩), FieldSpec.value?]
      rw [List.forall_mem_cons, List.forall₂_cons, hfirst, ← ih hnodup (Nat.succ.inj hlength)]
      exact and_congr_right fun _ => forall₂_congr fun other hother => by rw [hothers other hother]

theorem eq_value?_nameItems_iff {items : List Json} (fields : String → Option FieldValue)
    (hnodup : (layout.map FieldSpec.name).Nodup) (hlength : items.length = layout.length) :
    (∀ spec ∈ layout, spec.value? (nameItems layout items) = fields spec.name) ↔
      List.Forall₂ (fun spec item => spec.kind.value? item = fields spec.name) layout items :=
  forall_value?_nameItems_iff (fun spec value => value = fields spec.name) hnodup hlength

theorem isSome_value?_nameItems_iff {items : List Json}
    (hnodup : (layout.map FieldSpec.name).Nodup) (hlength : items.length = layout.length) :
    (∀ spec ∈ layout, (spec.value? (nameItems layout items)).isSome) ↔
      List.Forall₂ (fun spec item => (spec.kind.value? item).isSome) layout items :=
  forall_value?_nameItems_iff (fun _ value => value.isSome) hnodup hlength

end Members

/-! ### Written records -/

/-- A JSON value that writes the given fields: an object that has them all, or an array of them in
the order of the layout. -/
inductive Writes (layout : List FieldSpec) (fields : String → Option FieldValue) : Json → Prop where
  | object {members : List (String × Json)}
      (h : ∀ spec ∈ layout, spec.value? members = fields spec.name) :
      Writes layout fields (.object members)
  | array {items : List Json}
      (h : List.Forall₂ (fun spec item => spec.kind.value? item = fields spec.name) layout items) :
      Writes layout fields (.array items)

/-- **A record is read from exactly the values that write its fields.** -/
theorem recordMembers_bind_eq_ok_iff {α : Type} {layout : List FieldSpec}
    {ofMembers : List (String × Json) → Except ReadingFault α}
    {fields : α → String → Option FieldValue} (hnodup : (layout.map FieldSpec.name).Nodup)
    (hsome : ∀ record, ∀ spec ∈ layout, (fields record spec.name).isSome)
    (hread : ∀ members record, ofMembers members = .ok record ↔
      ∀ spec ∈ layout, spec.value? members = fields record spec.name)
    (what : String) {value : Json} (h : value.IsCanonical) {record : α} :
    (recordMembers what layout value >>= ofMembers) = .ok record ↔
      Writes layout (fields record) value := by
  have hcheck {members : List (String × Json)} (hmembers : (members.map Prod.fst).Nodup)
      (hwritten : ∀ spec ∈ layout, spec.value? members = fields record spec.name) :
      checkMembers layout [] members = .ok () :=
    checkMembers_of_complete hmembers fun spec hspec =>
      (hwritten spec hspec).symm ▸ hsome record spec hspec
  cases value with
  | object members =>
    simp only [recordMembers, bind_eq_ok_iff, pure_eq_ok_iff]
    constructor
    · rintro ⟨_, ⟨_, -, rfl⟩, hrecord⟩
      exact .object ((hread members record).mp hrecord)
    · rintro (⟨hwritten⟩ | -)
      exact ⟨members, ⟨(), hcheck (Json.nodup_of_increasing h.sorted) hwritten, rfl⟩,
        (hread members record).mpr hwritten⟩
  | array items =>
    simp only [recordMembers, bind_eq_ok_iff, check_eq_ok_iff, pure_eq_ok_iff]
    constructor
    · rintro ⟨_, ⟨-, -, hshort, hlong, rfl⟩, hrecord⟩
      have hlength : items.length = layout.length := by omega
      exact .array ((eq_value?_nameItems_iff _ hnodup hlength).mp ((hread _ record).mp hrecord))
    · rintro (- | ⟨hwritten⟩)
      have hlength := hwritten.length_eq
      have hvalues := (eq_value?_nameItems_iff _ hnodup hlength.symm).mpr hwritten
      have hnames : ((nameItems layout items).map Prod.fst).Nodup := by
        rwa [nameItems, List.map_fst_zip (by rw [List.length_map, hlength])]
      exact ⟨_, ⟨(), hcheck hnames hvalues, by omega, by omega, rfl⟩, (hread _ record).mpr hvalues⟩
  | null | bool | integer | real | string =>
    simp only [recordMembers, bind_eq_ok_iff, throw_ne_ok, false_and, exists_false, false_iff]
    rintro ⟨⟩

/-! ### Sections and rooms -/

theorem FieldKind.kind_of_value? {kind : FieldKind} {value : Json} {field : FieldValue}
    (h : kind.value? value = some field) : field.kind = kind := by
  cases kind with
  | measure =>
    obtain ⟨_, -, rfl⟩ := Option.map_eq_some_iff.mp h
    rfl
  | text =>
    obtain ⟨_, -, rfl⟩ := Option.map_eq_some_iff.mp h
    rfl

namespace FieldSpec

variable {name : String} {members : List (String × Json)}

theorem exists_text (h : (value? ⟨name, .text⟩ members).isSome) :
    ∃ text, value? ⟨name, .text⟩ members = some (.text text) := by
  obtain ⟨field, hfield⟩ := Option.isSome_iff_exists.mp h
  obtain ⟨value, -, hvalue⟩ := Option.bind_eq_some_iff.mp hfield
  cases field with
  | text text => exact ⟨text, hfield⟩
  | number x => cases FieldKind.kind_of_value? hvalue

theorem exists_number (h : (value? ⟨name, .measure⟩ members).isSome) :
    ∃ x, value? ⟨name, .measure⟩ members = some (.number x) := by
  obtain ⟨field, hfield⟩ := Option.isSome_iff_exists.mp h
  obtain ⟨value, -, hvalue⟩ := Option.bind_eq_some_iff.mp hfield
  cases field with
  | text text => cases FieldKind.kind_of_value? hvalue
  | number x => exact ⟨x, hfield⟩

end FieldSpec

namespace Section

variable {members : List (String × Json)}

theorem ofMembers_eq_ok_iff (members : List (String × Json)) (record : Section) :
    ofMembers members = .ok record ↔
      ∀ spec ∈ layout, spec.value? members = record.field? spec.name := by
  simp only [ofMembers, bind_eq_ok_iff, pure_eq_ok_iff, requireField_text_eq_ok_iff,
    requireField_measure_eq_ok_iff, layout, List.forall_mem_cons, List.not_mem_nil, false_implies,
    implies_true, and_true, field?]
  constructor
  · rintro ⟨_, huuid, _, hid, _, htitle, _, hinstructor, _, hdept, _, hyear, _, havg, _, hpass, _,
      hfail, _, haudit, rfl⟩
    exact ⟨huuid, hid, htitle, hinstructor, hdept, hyear, havg, hpass, hfail, haudit⟩
  · rintro ⟨huuid, hid, htitle, hinstructor, hdept, hyear, havg, hpass, hfail, haudit⟩
    exact ⟨_, huuid, _, hid, _, htitle, _, hinstructor, _, hdept, _, hyear, _, havg, _, hpass, _,
      hfail, _, haudit, rfl⟩

theorem exists_of_complete (h : ∀ spec ∈ layout, (spec.value? members).isSome) :
    ∃ record : Section, ∀ spec ∈ layout, spec.value? members = record.field? spec.name := by
  simp only [layout, List.forall_mem_cons, List.not_mem_nil, false_implies, implies_true, and_true,
    field?] at h ⊢
  obtain ⟨huuid, hid, htitle, hinstructor, hdept, hyear, havg, hpass, hfail, haudit⟩ := h
  obtain ⟨uuid, huuid⟩ := FieldSpec.exists_text huuid
  obtain ⟨id, hid⟩ := FieldSpec.exists_text hid
  obtain ⟨title, htitle⟩ := FieldSpec.exists_text htitle
  obtain ⟨instructor, hinstructor⟩ := FieldSpec.exists_text hinstructor
  obtain ⟨dept, hdept⟩ := FieldSpec.exists_text hdept
  obtain ⟨year, hyear⟩ := FieldSpec.exists_number hyear
  obtain ⟨avg, havg⟩ := FieldSpec.exists_number havg
  obtain ⟨pass, hpass⟩ := FieldSpec.exists_number hpass
  obtain ⟨fail, hfail⟩ := FieldSpec.exists_number hfail
  obtain ⟨audit, haudit⟩ := FieldSpec.exists_number haudit
  exact ⟨⟨uuid, id, title, instructor, dept, year, avg, pass, fail, audit⟩, huuid, hid, htitle,
    hinstructor, hdept, hyear, havg, hpass, hfail, haudit⟩

theorem isSome_field? (record : Section) : ∀ spec ∈ layout, (record.field? spec.name).isSome := by
  simp [layout, field?]

/-- **A section is read from exactly the values that write its fields.** -/
theorem ofJson_eq_ok_iff {value : Json} (h : value.IsCanonical) {record : Section} :
    ofJson value = .ok record ↔ Writes layout record.field? value :=
  recordMembers_bind_eq_ok_iff (by decide) isSome_field? ofMembers_eq_ok_iff "Section" h

end Section

namespace Room

variable {members : List (String × Json)}

theorem ofMembers_eq_ok_iff (members : List (String × Json)) (record : Room) :
    ofMembers members = .ok record ↔
      ∀ spec ∈ layout, spec.value? members = record.field? spec.name := by
  simp only [ofMembers, bind_eq_ok_iff, pure_eq_ok_iff, requireField_text_eq_ok_iff,
    requireField_measure_eq_ok_iff, layout, List.forall_mem_cons, List.not_mem_nil, false_implies,
    implies_true, and_true, field?]
  constructor
  · rintro ⟨_, hfullname, _, hshortname, _, hnumber, _, hname, _, haddress, _, hlat, _, hlon, _,
      hseats, _, hpurpose, _, hfurniture, _, hhref, rfl⟩
    exact ⟨hfullname, hshortname, hnumber, hname, haddress, hlat, hlon, hseats, hpurpose,
      hfurniture, hhref⟩
  · rintro ⟨hfullname, hshortname, hnumber, hname, haddress, hlat, hlon, hseats, hpurpose,
      hfurniture, hhref⟩
    exact ⟨_, hfullname, _, hshortname, _, hnumber, _, hname, _, haddress, _, hlat, _, hlon, _,
      hseats, _, hpurpose, _, hfurniture, _, hhref, rfl⟩

theorem exists_of_complete (h : ∀ spec ∈ layout, (spec.value? members).isSome) :
    ∃ record : Room, ∀ spec ∈ layout, spec.value? members = record.field? spec.name := by
  simp only [layout, List.forall_mem_cons, List.not_mem_nil, false_implies, implies_true, and_true,
    field?] at h ⊢
  obtain ⟨hfullname, hshortname, hnumber, hname, haddress, hlat, hlon, hseats, hpurpose,
    hfurniture, hhref⟩ := h
  obtain ⟨fullname, hfullname⟩ := FieldSpec.exists_text hfullname
  obtain ⟨shortname, hshortname⟩ := FieldSpec.exists_text hshortname
  obtain ⟨number, hnumber⟩ := FieldSpec.exists_text hnumber
  obtain ⟨name, hname⟩ := FieldSpec.exists_text hname
  obtain ⟨address, haddress⟩ := FieldSpec.exists_text haddress
  obtain ⟨lat, hlat⟩ := FieldSpec.exists_number hlat
  obtain ⟨lon, hlon⟩ := FieldSpec.exists_number hlon
  obtain ⟨seats, hseats⟩ := FieldSpec.exists_number hseats
  obtain ⟨purpose, hpurpose⟩ := FieldSpec.exists_text hpurpose
  obtain ⟨furniture, hfurniture⟩ := FieldSpec.exists_text hfurniture
  obtain ⟨href, hhref⟩ := FieldSpec.exists_text hhref
  exact ⟨⟨fullname, shortname, number, name, address, lat, lon, seats, purpose, furniture, href⟩,
    hfullname, hshortname, hnumber, hname, haddress, hlat, hlon, hseats, hpurpose, hfurniture,
    hhref⟩

theorem isSome_field? (record : Room) : ∀ spec ∈ layout, (record.field? spec.name).isSome := by
  simp [layout, field?]

/-- **A room is read from exactly the values that write its fields.** -/
theorem ofJson_eq_ok_iff {value : Json} (h : value.IsCanonical) {record : Room} :
    ofJson value = .ok record ↔ Writes layout record.field? value :=
  recordMembers_bind_eq_ok_iff (by decide) isSome_field? ofMembers_eq_ok_iff "Room" h

end Room

/-! ### Complete records -/

/-- A JSON value that writes a complete record of a kind: every field is there with its type, in an
object by its name and in an array at its place. -/
inductive IsRecord (kind : DatasetKind) : Json → Prop where
  | object {members : List (String × Json)}
      (h : ∀ spec ∈ kind.layout, (spec.value? members).isSome) : IsRecord kind (.object members)
  | array {items : List Json}
      (h : List.Forall₂ (fun spec item => (spec.kind.value? item).isSome) kind.layout items) :
      IsRecord kind (.array items)

/-- The value writes the record. -/
def Record.WrittenAs (record : Record) (value : Json) : Prop :=
  Writes record.kind.layout record.field? value

theorem DatasetKind.nodup_layout (kind : DatasetKind) :
    (kind.layout.map FieldSpec.name).Nodup := by
  cases kind <;> decide

theorem DatasetKind.exists_of_complete (kind : DatasetKind) {members : List (String × Json)}
    (h : ∀ spec ∈ kind.layout, (spec.value? members).isSome) : ∃ record : Record,
      record.kind = kind ∧ ∀ spec ∈ kind.layout, spec.value? members = record.field? spec.name := by
  cases kind with
  | sections =>
    obtain ⟨record, hrecord⟩ := Section.exists_of_complete h
    exact ⟨.ofSection record, rfl, hrecord⟩
  | rooms =>
    obtain ⟨record, hrecord⟩ := Room.exists_of_complete h
    exact ⟨.ofRoom record, rfl, hrecord⟩

theorem Record.isSome_field? (record : Record) :
    ∀ spec ∈ record.kind.layout, (record.field? spec.name).isSome := by
  cases record with
  | ofSection record => exact record.isSome_field?
  | ofRoom record => exact record.isSome_field?

/-- Every field of a record has its place in the layout. -/
theorem Record.exists_spec_of_field? {record : Record} {name : String} {value : FieldValue}
    (h : record.field? name = some value) : ∃ spec ∈ record.kind.layout, spec.name = name := by
  cases record with
  | ofSection record =>
    simp only [Record.field?, Section.field?] at h
    split at h
    case h_11 => cases h
    all_goals simp [Record.kind, DatasetKind.layout, Section.layout]
  | ofRoom record =>
    simp only [Record.field?, Room.field?] at h
    split at h
    case h_12 => cases h
    all_goals simp [Record.kind, DatasetKind.layout, Room.layout]

/-- A value writes a complete record of a kind exactly if it writes some record of it. -/
theorem isRecord_iff {kind : DatasetKind} {value : Json} :
    IsRecord kind value ↔ ∃ record : Record, record.kind = kind ∧ record.WrittenAs value := by
  constructor
  · rintro (⟨h⟩ | ⟨h⟩)
    · obtain ⟨record, rfl, hrecord⟩ := kind.exists_of_complete h
      exact ⟨record, rfl, .object hrecord⟩
    · have hlength := h.length_eq.symm
      obtain ⟨record, rfl, hrecord⟩ := kind.exists_of_complete
        ((isSome_value?_nameItems_iff kind.nodup_layout hlength).mpr h)
      exact ⟨record, rfl,
        .array ((eq_value?_nameItems_iff _ record.kind.nodup_layout hlength).mp hrecord)⟩
  · rintro ⟨record, rfl, ⟨h⟩ | ⟨h⟩⟩
    · exact .object fun spec hspec => h spec hspec ▸ record.isSome_field? spec hspec
    · have hlength := h.length_eq.symm
      have hvalues := (eq_value?_nameItems_iff _ record.kind.nodup_layout hlength).mpr h
      refine .array ((isSome_value?_nameItems_iff record.kind.nodup_layout hlength).mp
        fun spec hspec => ?_)
      rw [hvalues spec hspec]
      exact record.isSome_field? spec hspec

/-! ### Sets of records -/

namespace RecordSet

variable {kind : DatasetKind} {value : Json} {set : RecordSet}

theorem kind_of_mem_toList {record : Record} (h : record ∈ set.toList) :
    record.kind = set.kind := by
  cases set with
  | sections records =>
    obtain ⟨_, -, rfl⟩ := List.mem_map.mp h
    rfl
  | rooms records =>
    obtain ⟨_, -, rfl⟩ := List.mem_map.mp h
    rfl

theorem length_toList (set : RecordSet) : set.toList.length = set.length := by
  cases set with
  | sections records => exact List.length_map ..
  | rooms records => exact List.length_map ..

/-- Items are read one by one. -/
theorem readItems_eq_ok_iff {α : Type} {read : Json → Except ReadingFault α}
    {writes : α → Json → Prop}
    (hread : ∀ value, value.IsCanonical → ∀ record, read value = .ok record ↔ writes record value)
    (h : value.IsCanonical) {records : List α} :
    readItems read value = .ok records ↔
      ∃ items, value = .array items ∧ List.Forall₂ writes records items := by
  cases value with
  | array items =>
    have hitems : ∀ item ∈ items, item.IsCanonical := fun item => h.of_mem
    rw [readItems, mapM_eq_ok_iff]
    constructor
    · intro hrecords
      refine ⟨items, rfl, List.Forall₂.flip ?_⟩
      refine ((List.forall₂_and_left _ _).mpr ⟨hitems, hrecords⟩).imp fun item record hitem => ?_
      exact (hread item hitem.1 record).mp hitem.2
    · rintro ⟨_, heq, hrecords⟩
      cases heq
      refine ((List.forall₂_and_left _ _).mpr ⟨hitems, hrecords.flip⟩).imp
        fun item record hitem => ?_
      exact (hread item hitem.1 record).mpr hitem.2
  | null | bool | integer | real | string | object =>
    constructor
    · rintro ⟨⟩
    · rintro ⟨_, ⟨⟩, -⟩

/-- **The records that are read are those that the items of an array write**, in the same order. -/
theorem ofJson_eq_ok_iff (h : value.IsCanonical) :
    ofJson kind value = .ok set ↔ set.kind = kind ∧
      ∃ items, value = .array items ∧ List.Forall₂ Record.WrittenAs set.toList items := by
  have hsections {records : List Section} : readItems Section.ofJson value = .ok records ↔
      ∃ items, value = .array items ∧
        List.Forall₂ (fun record => (Record.ofSection record).WrittenAs) records items :=
    readItems_eq_ok_iff (fun _ h _ => Section.ofJson_eq_ok_iff h) h
  have hrooms {records : List Room} : readItems Room.ofJson value = .ok records ↔
      ∃ items, value = .array items ∧
        List.Forall₂ (fun record => (Record.ofRoom record).WrittenAs) records items :=
    readItems_eq_ok_iff (fun _ h _ => Room.ofJson_eq_ok_iff h) h
  cases kind with
  | sections => cases set <;> simp [ofJson, RecordSet.kind, toList, hsections]
  | rooms => cases set <;> simp [ofJson, RecordSet.kind, toList, hrooms]

/-- **Records are read exactly if every item of an array writes a complete one.** -/
theorem exists_ofJson_iff (h : value.IsCanonical) :
    (∃ set, ofJson kind value = .ok set) ↔
      ∃ items, value = .array items ∧ ∀ item ∈ items, IsRecord kind item := by
  constructor
  · rintro ⟨set, hset⟩
    obtain ⟨rfl, items, rfl, hrecords⟩ := (ofJson_eq_ok_iff h).mp hset
    refine ⟨items, rfl, fun item hitem => isRecord_iff.mpr ?_⟩
    obtain ⟨record, hrecord, hwritten⟩ := exists_of_mem_forall₂ hrecords hitem
    exact ⟨record, kind_of_mem_toList hrecord, hwritten⟩
  · rintro ⟨items, rfl, hitems⟩
    cases kind with
    | sections =>
      obtain ⟨records, hrecords⟩ := mapM_isOk_iff.mpr fun item hitem => by
        obtain ⟨_ | _, hkind, hwritten⟩ := isRecord_iff.mp (hitems item hitem)
        · exact ⟨_, (Section.ofJson_eq_ok_iff (h.of_mem hitem)).mpr hwritten⟩
        · cases hkind
      exact ⟨.sections records, map_eq_ok_iff.mpr ⟨records, hrecords, rfl⟩⟩
    | rooms =>
      obtain ⟨records, hrecords⟩ := mapM_isOk_iff.mpr fun item hitem => by
        obtain ⟨_ | _, hkind, hwritten⟩ := isRecord_iff.mp (hitems item hitem)
        · cases hkind
        · exact ⟨_, (Room.ofJson_eq_ok_iff (h.of_mem hitem)).mpr hwritten⟩
      exact ⟨.rooms records, map_eq_ok_iff.mpr ⟨records, hrecords, rfl⟩⟩

end RecordSet

end Registrar
