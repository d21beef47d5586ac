import Registrar.Proofs.Json.RoundTrip
import Registrar.Proofs.Outcome
import Registrar.Proofs.Storage.Disk
import Registrar.Proofs.Time.Timestamp
import Registrar.Storage.DatasetFile

/-!
# Dataset files are read back

The name of a data file tells the id of its dataset, and no other file has a name that does. A
dataset with finite numbers is read from its document, with each number as its text is read, which
need not be the number that was written. What listings show of it is read back from the small
document beside it. Both texts are read at once; nothing has to be scanned for faults.

## Main definitions

* `RecordSet.IsFinite` — all numbers in the records are finite.
* `RecordSet.reread` — the records with their numbers as they are read.

## Main results

* `idOfFileName?_dataFileName`, `idOfFileName?_infoFileName` — what names tell.
* `readDocument_dataset`, `readDocument_info` — the round trips.
-/

namespace Registrar

/-! ### Names -/

theorem toList_dataFileName (id : String) :
    (dataFileName id).toList = Percent.encodeChars id ++ '.' :: ['j', 's', 'o', 'n'] := by
  rw [dataFileName, String.toList_append, Percent.encode, String.toList_ofList]
  rfl

theorem toList_infoFileName (id : String) :
    (infoFileName id).toList = Percent.encodeChars id ++ '.' :: ['i', 'n', 'f', 'o'] := by
  rw [infoFileName, String.toList_append, Percent.encode, String.toList_ofList]
  rfl

theorem encode_ne_empty {id : String} (h : id ≠ "") : Percent.encodeChars id ≠ [] := by
  intro hempty
  have hdecode := Percent.decode?_encode id
  rw [Percent.encode, hempty] at hdecode
  exact h (Option.some.inj hdecode).symm

/-- What stands before the extension of a file name. -/
theorem stemOfDataFile?_append {name : String} {stem extension : List Char}
    (hname : name.toList = stem ++ '.' :: extension) (hpoint : '.' ∉ extension) :
    stemOfDataFile? name =
      if extension = "json".toList ∧ stem ≠ [] then some (String.ofList stem) else none := by
  have hreverse : name.toList.reverse = extension.reverse ++ '.' :: stem.reverse := by
    rw [hname, List.reverse_append, List.reverse_cons, List.append_assoc, List.singleton_append]
  have hpoint' : ∀ c ∈ extension.reverse, (c != '.') = true := by
    intro c hc
    refine bne_iff_ne.mpr ?_
    rintro rfl
    exact hpoint (List.mem_reverse.mp hc)
  have hextension : (extension.reverse ++ '.' :: stem.reverse).takeWhile (· != '.') =
      extension.reverse := by
    rw [List.takeWhile_append_of_pos hpoint', List.takeWhile_cons_of_neg (by decide),
      List.append_nil]
  have hstem : (extension.reverse ++ '.' :: stem.reverse).dropWhile (· != '.') =
      '.' :: stem.reverse := by
    rw [List.dropWhile_append_of_pos hpoint', List.dropWhile_cons_of_neg (by decide)]
  rw [stemOfDataFile?]
  simp only [hreverse, hextension, hstem, List.reverse_reverse, ne_eq, List.reverse_eq_nil_iff]

theorem ne_empty_of_isValidId {id : String} (h : isValidId id = true) : id ≠ "" := by
  rintro rfl
  cases h

/-- **The name of a data file tells the id of its dataset.** -/
theorem idOfFileName?_dataFileName {id : String} (h : id ≠ "") :
    idOfFileName? (dataFileName id) = some id := by
  rw [idOfFileName?, stemOfDataFile?_append (toList_dataFileName id) (by decide),
    if_pos ⟨rfl, encode_ne_empty h⟩]
  exact Percent.decode?_encode id

/-- **The name of a listing file tells no id.** -/
theorem idOfFileName?_infoFileName (id : String) : idOfFileName? (infoFileName id) = none := by
  rw [idOfFileName?, stemOfDataFile?_append (toList_infoFileName id) (by decide),
    if_neg fun h => absurd h.1 (by decide)]
  rfl

/-- **A temporary name tells no id.** -/
theorem idOfFileName?_temporaryName (name : String) :
    idOfFileName? (temporaryName name) = none := by
  have hname : (temporaryName name).toList = name.toList ++ '.' :: ['t', 'm', 'p'] := by
    rw [temporaryName, String.toList_append]
    rfl
  rw [idOfFileName?, stemOfDataFile?_append hname (by decide),
    if_neg fun h => absurd h.1 (by decide)]
  rfl

theorem encode_injective {id id' : String} (h : Percent.encode id = Percent.encode id') :
    id = id' := by
  have hdecode := Percent.decode?_encode id
  rw [h, Percent.decode?_encode] at hdecode
  exact (Option.some.inj hdecode).symm

theorem dataFileName_injective {id id' : String} (h : dataFileName id = dataFileName id') :
    id = id' :=
  encode_injective (String.append_left_inj _ |>.mp h)

theorem infoFileName_injective {id id' : String} (h : infoFileName id = infoFileName id') :
    id = id' :=
  encode_injective (String.append_left_inj _ |>.mp h)

theorem dataFileName_ne_infoFileName (id id' : String) : dataFileName id ≠ infoFileName id' := by
  intro h
  have hlast := congrArg (fun name => name.toList.getLast?) h
  simp [toList_dataFileName, toList_infoFileName] at hlast

theorem temporaryName_ne_dataFileName (name id : String) :
    temporaryName name ≠ dataFileName id := by
  intro h
  have hlast := congrArg (fun name => name.toList.getLast?) h
  simp [temporaryName, toList_dataFileName] at hlast

theorem temporaryName_ne_infoFileName (name id : String) :
    temporaryName name ≠ infoFileName id := by
  intro h
  have hlast := congrArg (fun name => name.toList.getLast?) h
  simp [temporaryName, toList_infoFileName] at hlast

theorem utf8ByteSize_infoFileName (id : String) :
    (infoFileName id).utf8ByteSize = (dataFileName id).utf8ByteSize := by
  rw [infoFileName, dataFileName, String.utf8ByteSize_append, String.utf8ByteSize_append]
  rfl

theorem fits_of_temporaryName {name : String} (h : Disk.Fits (temporaryName name)) :
    Disk.Fits name := by
  rw [Disk.Fits, temporaryName, String.utf8ByteSize_append] at h
  exact Nat.le_trans (Nat.le_add_right _ _) h

theorem fits_infoFileName {id : String} (h : Disk.Fits (dataFileName id)) :
    Disk.Fits (infoFileName id) := by
  rwa [Disk.Fits, utf8ByteSize_infoFileName]

theorem fits_temporaryName_infoFileName {id : String}
    (h : Disk.Fits (temporaryName (dataFileName id))) :
    Disk.Fits (temporaryName (infoFileName id)) := by
  rw [Disk.Fits, temporaryName, String.utf8ByteSize_append] at h ⊢
  rwa [utf8ByteSize_infoFileName]

/-! ### Records -/

/-- All numbers in a record are finite. -/
def Record.IsFinite (record : Record) : Prop :=
  ∀ name x, record.field? name = some (.number x) → x.isFinite = true

/-- All numbers in the records are finite. -/
def RecordSet.IsFinite (set : RecordSet) : Prop :=
  ∀ record ∈ set.toList, record.IsFinite

/-! ### Records that went through a text -/

/-- The value with a number as it is read from its text. -/
def FieldValue.reread : FieldValue → FieldValue
  | number x => number x.reread
  | text t => text t

/-- The section with its numbers as they are read from their texts. -/
def Section.reread (record : Section) : Section :=
  { record with
    year := record.year.reread
    avg := record.avg.reread
    pass := record.pass.reread
    fail := record.fail.reread
    audit := record.audit.reread }

/-- The room with its numbers as they are read from their texts. -/
def Room.reread (record : Room) : Room :=
  { record with
    lat := record.lat.reread
    lon := record.lon.reread
    seats := record.seats.reread }

/-- The record with its numbers as they are read from their texts. -/
def Record.reread : Record → Record
  | ofSection record => ofSection record.reread
  | ofRoom record => ofRoom record.reread

/-- The records with their numbers as they are read from their texts. -/
def RecordSet.reread : RecordSet → RecordSet
  | sections records => sections (records.map Section.reread)
  | rooms records => rooms (records.map Room.reread)

/-- The dataset with its numbers as they are read from their texts. -/
def Dataset.reread (dataset : Dataset) : Dataset :=
  { dataset with records := dataset.records.reread }

@[simp]
theorem Record.kind_reread (record : Record) : record.reread.kind = record.kind := by
  cases record <;> rfl

theorem Record.field?_reread (record : Record) (name : String) :
    record.reread.field? name = (record.field? name).map FieldValue.reread := by
  cases record with
  | ofSection record =>
    rw [reread, field?, field?]
    unfold Section.field?
    split <;> rfl
  | ofRoom record =>
    rw [reread, field?, field?]
    unfold Room.field?
    split <;> rfl

namespace RecordSet

@[simp]
theorem kind_reread (set : RecordSet) : set.reread.kind = set.kind := by
  cases set <;> rfl

theorem toList_reread (set : RecordSet) : set.reread.toList = set.toList.map Record.reread := by
  cases set <;> simp [reread, toList, Record.reread, Function.comp_def]

@[simp]
theorem length_reread (set : RecordSet) : set.reread.length = set.length := by
  cases set <;> exact List.length_map _

@[simp]
theorem isEmpty_reread (set : RecordSet) : set.reread.isEmpty = set.isEmpty := by
  rw [isEmpty, isEmpty, length_reread]

end RecordSet

/-- What is read of finite numbers is finite. -/
theorem RecordSet.IsFinite.reread {set : RecordSet} (h : set.IsFinite) : set.reread.IsFinite := by
  intro record hrecord name x hx
  rw [toList_reread] at hrecord
  obtain ⟨written, hwritten, rfl⟩ := List.mem_map.mp hrecord
  rw [Record.field?_reread] at hx
  obtain ⟨value, hvalue, hread⟩ := Option.map_eq_some_iff.mp hx
  cases value with
  | number y =>
    cases hread
    exact Binary64.isFinite_reread (h written hwritten name y hvalue)
  | text t => cases hread

/-! ### Records are read -/

theorem Section.ofJson_toStoredJson {record : Section} (h : (Record.ofSection record).IsFinite) :
    Section.ofJson (Record.ofSection record).toStoredJson = .ok record := by
  simp only [Record.toStoredJson, writeFields, Record.kind, DatasetKind.layout, Section.layout,
    Record.field?, List.filterMap_cons, List.filterMap_nil, Section.field?, Option.map_some,
    storedValue, Json.ofNumber, h "year" record.year rfl, h "avg" record.avg rfl,
    h "pass" record.pass rfl, h "fail" record.fail rfl, h "audit" record.audit rfl, if_true]
  rfl

theorem Room.ofJson_toStoredJson {record : Room} (h : (Record.ofRoom record).IsFinite) :
    Room.ofJson (Record.ofRoom record).toStoredJson = .ok record := by
  simp only [Record.toStoredJson, writeFields, Record.kind, DatasetKind.layout, Room.layout,
    Record.field?, List.filterMap_cons, List.filterMap_nil, Room.field?, Option.map_some,
    storedValue, Json.ofNumber, h "lat" record.lat rfl, h "lon" record.lon rfl,
    h "seats" record.seats rfl, if_true]
  rfl

/-- A list is read back if every item is. -/
theorem readItems_map {α : Type} {read : Json → Except ReadingFault α} {write : α → Json}
    {items : List α} (h : ∀ item ∈ items, read (write item) = .ok item) :
    RecordSet.readItems read (.array (items.map write)) = .ok items := by
  refine mapM_eq_ok_iff.mpr ?_
  induction items with
  | nil => exact .nil
  | cons item items ih =>
    exact .cons (h item List.mem_cons_self)
      (ih fun item' hitem' => h item' (List.mem_cons_of_mem item hitem'))

theorem RecordSet.ofJson_toStoredJson {set : RecordSet} (h : set.IsFinite) :
    RecordSet.ofJson set.kind (.array (set.toList.map Record.toStoredJson)) = .ok set := by
  cases set with
  | sections records =>
    rw [RecordSet.toList, List.map_map, RecordSet.kind, RecordSet.ofJson, readItems_map]
    · rfl
    · exact fun record hrecord =>
        Section.ofJson_toStoredJson (h _ (List.mem_map_of_mem hrecord))
  | rooms records =>
    rw [RecordSet.toList, List.map_map, RecordSet.kind, RecordSet.ofJson, readItems_map]
    · rfl
    · exact fun record hrecord =>
        Room.ofJson_toStoredJson (h _ (List.mem_map_of_mem hrecord))

/-! ### Documents -/

theorem readKindName_name (kind : DatasetKind) : readKindName (.string kind.name) = .ok kind := by
  cases kind <;> rfl

theorem readTimestamp_text {t : Timestamp} (h : t.InRange) :
    readTimestamp (.string t.text) = .ok t := by
  rw [readTimestamp, readText, bind_ok, Timestamp.ofText?_text h]
  rfl

theorem readRecordSet_toDocument {set : RecordSet} (h : set.IsFinite) :
    readRecordSet set.toDocument = .ok set := by
  have hmembers : documentMembers recordSetText ["kind", "records"] set.toDocument =
      .ok [("kind", .string set.kind.name),
        ("records", .array (set.toList.map Record.toStoredJson))] := rfl
  rw [readRecordSet, hmembers, bind_ok]
  exact (congrArg (· >>= _) (readKindName_name set.kind)).trans (RecordSet.ofJson_toStoredJson h)

theorem requireField_of_lookup {α : Type} {read : Json → Except ReadingFault α} {name : String}
    {members : List (String × Json)} {value : Json} (h : members.lookup name = some value) :
    requireField read name members = read value := by
  rw [requireField, h]

theorem readDataset_toDocument {dataset : Dataset} (hrecords : dataset.records.IsFinite)
    (htime : dataset.createdAt.InRange) :
    readDataset dataset.toDocument =
      .ok ⟨dataset.id, dataset.createdAt, dataset.records⟩ := by
  have hmembers : documentMembers "struct DatasetFile" ["id", "created_at", "data"]
      dataset.toDocument = .ok [("id", .string dataset.id),
        ("created_at", .string dataset.createdAt.text), ("data", dataset.records.toDocument)] := rfl
  rw [readDataset, hmembers, bind_ok, requireField_of_lookup rfl, readText, bind_ok,
    requireField_of_lookup rfl, readTimestamp_text htime, bind_ok, requireField_of_lookup rfl,
    readRecordSet_toDocument hrecords]
  rfl

theorem readInfo_toJson {info : DatasetInfo} (htime : info.createdAt.InRange) :
    readInfo info.toJson = .ok info := by
  have hmembers : documentMembers "struct DatasetInfo" ["id", "kind", "num_rows", "created_at"]
      info.toJson = .ok [("id", .string info.id), ("kind", .string info.kind.name),
        ("num_rows", .ofNat info.rows), ("created_at", .string info.createdAt.text)] := rfl
  have hrows : readCount (.ofNat info.rows) = .ok info.rows := by
    rw [readCount, Json.ofNat, Json.nat?, if_pos (Int.natCast_nonneg _), Int.toNat_natCast]
  rw [readInfo, hmembers, bind_ok, requireField_of_lookup rfl, readText, bind_ok,
    requireField_of_lookup rfl, readKindName_name, bind_ok, requireField_of_lookup rfl, hrows,
    bind_ok, requireField_of_lookup rfl, readTimestamp_text htime]
  rfl

/-! ### Documents that went through a text -/

theorem reread_storedValue {value : FieldValue}
    (h : ∀ x, value = .number x → x.isFinite = true) :
    (storedValue value).reread = storedValue value.reread := by
  cases value with
  | number x =>
    have hfinite := h x rfl
    rw [FieldValue.reread, storedValue, storedValue, Json.ofNumber, Json.ofNumber, if_pos hfinite,
      if_pos (Binary64.isFinite_reread hfinite), Json.reread]
  | text t => rfl

theorem Record.reread_toStoredJson {record : Record} (h : record.IsFinite) :
    record.toStoredJson.reread = record.reread.toStoredJson := by
  rw [toStoredJson, toStoredJson, writeFields, writeFields, Json.reread,
    Json.rereadMembers_eq_map, List.map_filterMap, kind_reread]
  refine congrArg Json.object (List.filterMap_congr fun spec _ => ?_)
  rw [field?_reread, Option.map_map, Option.map_map]
  cases hvalue : record.field? spec.name with
  | none => rfl
  | some value =>
    have hread : (storedValue value).reread = storedValue value.reread :=
      reread_storedValue fun x hx => h spec.name x (hx ▸ hvalue)
    exact congrArg (fun json => some (spec.name, json)) hread

theorem Dataset.reread_toDocument {dataset : Dataset} (h : dataset.records.IsFinite) :
    dataset.toDocument.reread = dataset.reread.toDocument := by
  have hrecords : (Json.array (dataset.records.toList.map Record.toStoredJson)).reread =
      .array (dataset.records.reread.toList.map Record.toStoredJson) := by
    rw [Json.reread, Json.rereadItems_eq_map, RecordSet.toList_reread, List.map_map, List.map_map]
    exact congrArg Json.array (List.map_congr_left fun record hrecord =>
      Record.reread_toStoredJson (h record hrecord))
  simp only [toDocument, Dataset.reread, RecordSet.toDocument, RecordSet.kind_reread, ← hrecords]
  rfl

theorem DatasetInfo.reread_toJson (info : DatasetInfo) : info.toJson.reread = info.toJson := rfl

/-! ### Texts of documents -/

theorem writable_storedValue (depth : Nat) (value : FieldValue) :
    Json.Writable depth (storedValue value) := by
  cases value with
  | text value => exact .string value
  | number value =>
    rw [storedValue, Json.ofNumber]
    split
    · next hfinite => exact .real hfinite
    · exact .null

theorem writable_toStoredJson (depth : Nat) (record : Record) :
    Json.Writable (depth + 1) record.toStoredJson := by
  refine .object fun member hmember => ?_
  obtain ⟨spec, -, hspec⟩ := List.mem_filterMap.mp hmember
  obtain ⟨value, -, rfl⟩ := Option.map_eq_some_iff.mp hspec
  exact writable_storedValue depth value

theorem writable_toDocument (depth : Nat) (dataset : Dataset) :
    Json.Writable (depth + 4) dataset.toDocument := by
  have hrecords : Json.Writable (depth + 2)
      (.array (dataset.records.toList.map Record.toStoredJson)) := by
    refine .array fun item hitem => ?_
    obtain ⟨record, -, rfl⟩ := List.mem_map.mp hitem
    exact writable_toStoredJson depth record
  have hset : Json.Writable (depth + 3) dataset.records.toDocument := by
    refine .object fun member hmember => ?_
    obtain rfl | hmember := List.mem_cons.mp hmember
    · exact .string _
    · rw [List.mem_singleton.mp hmember]
      exact hrecords
  refine .object fun member hmember => ?_
  simp only [List.mem_cons, List.not_mem_nil, or_false] at hmember
  obtain rfl | rfl | rfl := hmember
  · exact .string _
  · exact .string _
  · exact hset

theorem writable_infoJson (depth : Nat) {info : DatasetInfo} (hrows : info.rows < twoPow 64) :
    Json.Writable (depth + 1) info.toJson := by
  refine .object fun member hmember => ?_
  simp only [List.mem_cons, List.not_mem_nil, or_false] at hmember
  obtain rfl | rfl | rfl | rfl := hmember
  · exact .string _
  · exact .string _
  · exact .integer (Int.le_trans (by decide) (Int.natCast_nonneg _)) (Int.ofNat_lt.mpr hrows)
  · exact .string _

/-- A text that is read without a fault is not scanned. -/
theorem readDocument_compact {α : Type} {read : Json → Except ReadingFault α}
    {scan : Json.Scan Json} {value : Json} {document : α}
    (hvalue : Json.Writable Json.nestingLimit value) (h : read value.reread = .ok document) :
    readDocument read scan value.compact = .ok document := by
  rw [readDocument, Json.parseMembers?_compact hvalue, Option.map_some, h]

/-- **A dataset is read from its document**, with its numbers as their texts are read. -/
theorem readDocument_dataset {dataset : Dataset} (hrecords : dataset.records.IsFinite)
    (htime : dataset.createdAt.InRange) :
    readDocument readDataset scanDataset dataset.toDocument.compact =
      .ok ⟨dataset.id, dataset.createdAt, dataset.records.reread⟩ := by
  refine readDocument_compact (writable_toDocument 123 dataset) ?_
  rw [Dataset.reread_toDocument hrecords]
  exact readDataset_toDocument (show dataset.reread.records.IsFinite from hrecords.reread) htime

/-- **What listings show is read back from the document for listings.** -/
theorem readDocument_info {info : DatasetInfo} (hrows : info.rows < twoPow 64)
    (htime : info.createdAt.InRange) :
    readDocument readInfo scanInfo info.toJson.compact = .ok info := by
  refine readDocument_compact (writable_infoJson 126 hrows) ?_
  rw [DatasetInfo.reread_toJson]
  exact readInfo_toJson htime

end Registrar
