import Registrar.Proofs.Storage.Action

/-!
# File names stand for ids

A store has up to four files for an id: the data file and the listing file, and each of them under a
temporary name while it is written. All four names start with the percent-encoded id, and ids may
look like anything: like an extension, like a name with a special meaning, like an encoded name.

Two things keep the names apart. The encoding is undone in only one way, so the part before the
extension tells the id. And what comes after the id says what the file is for: since the encoding
writes points as they are, the id may end like any of the four extensions, but the extension that
was added stands behind it.

A name is a single step of a path because the encoding leaves no slash in it, and because an
extension is longer than the two names that are steps of another kind.

## Main definitions

* `FilePurpose`, `FilePurpose.fileName` — what a file is for, and its name.
* `IsSingleName` — a text that is a single step of a path.

## Main results

* `IsSingleName.ofText_append` — a single name leads to an entry of the directory it is put after.
* `FilePurpose.fileName_eq_iff` — no two files share a name.
* `DatasetStore.fileNames_tell_ids` — the names of files as a code for ids.
-/

namespace Registrar

/-! ### Names as steps of a path -/

theorem pieces_ne_nil (separator : Char) (text : List Char) : pieces separator text ≠ [] := by
  cases text with
  | nil => exact List.cons_ne_nil [] []
  | cons c rest =>
    rw [pieces]
    split
    · exact List.cons_ne_nil [] _
    · split <;> exact List.cons_ne_nil _ _

/-- A separator ends a piece, whatever stands around it. -/
theorem pieces_append_cons (separator : Char) (front back : List Char) :
    pieces separator (front ++ separator :: back) =
      pieces separator front ++ pieces separator back := by
  induction front with
  | nil => simp [pieces]
  | cons c front ih =>
    rw [List.cons_append, pieces, ih, pieces]
    split
    · rw [List.cons_append]
    · cases hfront : pieces separator front with
      | nil => exact absurd hfront (pieces_ne_nil separator front)
      | cons first others => rfl

theorem pieces_of_notMem {separator : Char} {text : List Char} (h : separator ∉ text) :
    pieces separator text = [text] := by
  induction text with
  | nil => rfl
  | cons c rest ih =>
    rw [List.mem_cons, not_or] at h
    rw [pieces, if_neg (Ne.symm h.1), ih h.2]

/-- A text that is a single step of a path, to an entry of a directory: it has none of the
characters that no name can have, and it is not one of the two names that every directory has for
itself and for the directory above it. -/
structure IsSingleName (name : String) : Prop where
  ne_empty : name ≠ ""
  noSlash : '/' ∉ name.toList
  noNul : '\x00' ∉ name.toList
  ne_self : name ≠ "."
  ne_above : name ≠ ".."

/-- **A single name leads to an entry of the directory that it is put after.** -/
theorem IsSingleName.ofText_append {name : String} (h : IsSingleName name) (directory : String) :
    Path.ofText (directory ++ "/" ++ name) = Path.ofText directory ++ [name] := by
  have htext : (directory ++ "/" ++ name).toList = directory.toList ++ '/' :: name.toList := by
    rw [String.toList_append, String.toList_append, List.append_assoc]
    rfl
  rw [Path.ofText, htext, pieces_append_cons, pieces_of_notMem h.noSlash, List.map_append,
    List.map_singleton, String.ofList_toList, List.foldl_append, List.foldl_cons, List.foldl_nil,
    if_neg (not_or.mpr ⟨h.ne_empty, h.ne_self⟩), if_neg h.ne_above, Path.ofText]

/-! ### Encoded names -/

namespace Percent

theorem isUnreserved_hexDigit {n : UInt8} (h : n < 16) : isUnreserved (hexDigit n) = true := by
  have hall : ∀ k < 16, isUnreserved (hexDigit (UInt8.ofNat k)) = true := by decide
  have hn := hall n.toNat (UInt8.lt_iff_toNat_lt.mp h)
  rwa [UInt8.ofNat_toNat] at hn

/-- An encoded text has no bytes but unreserved ones and percent signs. -/
theorem isUnreserved_of_mem_encodeByte {byte b : UInt8} (h : b ∈ encodeByte byte) :
    isUnreserved b = true ∨ b = 37 := by
  rw [encodeByte] at h
  split at h
  · next hplain =>
    rw [List.mem_singleton.mp h]
    exact .inl hplain
  · simp only [List.mem_cons, List.not_mem_nil, or_false] at h
    obtain rfl | rfl | rfl := h
    · exact .inr rfl
    · exact .inl (isUnreserved_hexDigit (div_sixteen_lt byte))
    · exact .inl (isUnreserved_hexDigit (mod_sixteen_lt byte))

theorem notMem_encodeChars (text : String) (byte : UInt8) (hlt : byte < 128)
    (hreserved : isUnreserved byte = false) (hne : byte ≠ 37) :
    Char.ofNat byte.toNat ∉ encodeChars text := by
  intro h
  obtain ⟨b, hb, hchar⟩ := List.mem_map.mp h
  obtain ⟨_, -, hb⟩ := List.mem_flatMap.mp hb
  -- Both are ASCII characters, so they are told apart by their bytes.
  have hbyte : [b] = [byte] := by
    rw [← utf8EncodeChar_ofNat (lt_of_mem_encodeByte hb), hchar, utf8EncodeChar_ofNat hlt]
  obtain rfl := List.singleton_inj.mp hbyte
  obtain hplain | rfl := isUnreserved_of_mem_encodeByte hb
  · rw [hreserved] at hplain
    cases hplain
  · exact hne rfl

end Percent

/-- An encoded text with an extension is a single name. -/
theorem isSingleName_encode_append {id extension : String} {name : String}
    (hname : name.toList = Percent.encodeChars id ++ extension.toList)
    (hslash : '/' ∉ extension.toList) (hnul : '\x00' ∉ extension.toList)
    (hlong : 2 < extension.length) : IsSingleName name := by
  have hlength : 2 < name.toList.length := by
    rw [hname, List.length_append, String.length_toList]
    omega
  have hne {other : String} (hshort : other.toList.length ≤ 2) : name ≠ other := by
    rintro rfl
    omega
  refine ⟨hne (by decide), ?_, ?_, hne (by decide), hne (by decide)⟩
  · rw [hname, List.mem_append, not_or]
    exact ⟨Percent.notMem_encodeChars id 47 (by decide) (by decide) (by decide), hslash⟩
  · rw [hname, List.mem_append, not_or]
    exact ⟨Percent.notMem_encodeChars id 0 (by decide) (by decide) (by decide), hnul⟩

/-! ### Files of ids -/

/-- What a file of a store is for. -/
inductive FilePurpose where
  | data
  | info
  /-- A data file that is being written. -/
  | newData
  /-- A listing file that is being written. -/
  | newInfo
deriving DecidableEq, Repr

namespace FilePurpose

/-- The name of the file that an id has for a purpose. -/
def fileName (purpose : FilePurpose) (id : String) : String :=
  match purpose with
  | data => dataFileName id
  | info => infoFileName id
  | newData => temporaryName (dataFileName id)
  | newInfo => temporaryName (infoFileName id)

/-- What stands behind the encoded id. -/
def extension : FilePurpose → String
  | data => ".json"
  | info => ".info"
  | newData => ".json.tmp"
  | newInfo => ".info.tmp"

theorem toList_fileName (purpose : FilePurpose) (id : String) :
    (purpose.fileName id).toList = Percent.encodeChars id ++ purpose.extension.toList := by
  cases purpose <;>
    simp [fileName, extension, temporaryName, toList_dataFileName, toList_infoFileName]

theorem isSingleName_fileName (purpose : FilePurpose) (id : String) :
    IsSingleName (purpose.fileName id) := by
  refine isSingleName_encode_append (toList_fileName purpose id) ?_ ?_ ?_ <;>
    cases purpose <;> decide

theorem temporaryName_inj {name name' : String} :
    temporaryName name = temporaryName name' ↔ name = name' :=
  String.append_left_inj _

/-- **No two files share a name.** -/
theorem fileName_eq_iff {purpose purpose' : FilePurpose} {id id' : String} :
    purpose.fileName id = purpose'.fileName id' ↔ purpose = purpose' ∧ id = id' := by
  have hdata : dataFileName id = dataFileName id' ↔ id = id' :=
    ⟨dataFileName_injective, congrArg _⟩
  have hinfo : infoFileName id = infoFileName id' ↔ id = id' :=
    ⟨infoFileName_injective, congrArg _⟩
  cases purpose <;> cases purpose' <;>
    simp [fileName, hdata, hinfo, temporaryName_inj, dataFileName_ne_infoFileName,
      (dataFileName_ne_infoFileName _ _).symm, temporaryName_ne_dataFileName,
      (temporaryName_ne_dataFileName _ _).symm, temporaryName_ne_infoFileName,
      (temporaryName_ne_infoFileName _ _).symm]

/-- **A name tells an id if it is that of a data file, and then the id of its dataset.** -/
theorem idOfFileName?_fileName {purpose : FilePurpose} {id : String} (h : isValidId id = true) :
    idOfFileName? (purpose.fileName id) = if purpose = data then some id else none := by
  cases purpose with
  | data => exact idOfFileName?_dataFileName (ne_empty_of_isValidId h)
  | info => exact idOfFileName?_infoFileName id
  | newData => exact idOfFileName?_temporaryName _
  | newInfo => exact idOfFileName?_temporaryName _

end FilePurpose

namespace DatasetStore

open FilePurpose (fileName)

theorem filterMap_idOfFileName? {files : List (FilePurpose × String)}
    (hvalid : ∀ file ∈ files, isValidId file.2 = true) :
    (files.map fun file => fileName file.1 file.2).filterMap idOfFileName? =
      (files.filter fun file => file.1 = .data).map Prod.snd := by
  induction files with
  | nil => rfl
  | cons file files ih =>
    obtain ⟨hfile, hfiles⟩ := List.forall_mem_cons.mp hvalid
    rw [List.map_cons, List.filterMap_cons, FilePurpose.idOfFileName?_fileName hfile, ih hfiles]
    by_cases hdata : file.1 = .data
    · rw [if_pos hdata, List.filter_cons_of_pos (by simpa using hdata), List.map_cons]
    · rw [if_neg hdata, List.filter_cons_of_neg (by simpa using hdata)]

/-- **File names are a code for ids.** The names of the files of an id are single steps of a path,
so the files are entries of the directory and nothing else. No two files share a name, whichever ids
and purposes they belong to. The names of data files tell their ids, and no other names tell any: a
directory of files shows the ids that have a data file in it. -/
theorem fileNames_tell_ids {id : String} (hid : isValidId id = true) :
    (∀ purpose, IsSingleName (fileName purpose id) ∧ ∀ above,
      Path.ofText (above ++ "/" ++ fileName purpose id) =
        Path.ofText above ++ [fileName purpose id]) ∧
    (∀ purpose id' purpose', fileName purpose id = fileName purpose' id' ↔
      purpose = purpose' ∧ id = id') ∧
    (∀ purpose, idOfFileName? (fileName purpose id) =
      if purpose = .data then some id else none) ∧
    ∀ (store : DatasetStore) (files : List (FilePurpose × String)),
      (∀ file ∈ files, isValidId file.2 = true) →
      store.disk.list directory = .ok (files.map fun file => fileName file.1 file.2) →
      fileIds.run store =
        (.ok ((files.filter fun file => file.1 = .data).map Prod.snd), store) := by
  refine ⟨fun purpose => ⟨purpose.isSingleName_fileName id, fun above =>
      (purpose.isSingleName_fileName id).ofText_append above⟩,
    fun purpose id' purpose' => FilePurpose.fileName_eq_iff,
    fun purpose => FilePurpose.idOfFileName?_fileName hid, fun store files hvalid hlist => ?_⟩
  rw [fileIds, run_bind_ok (run_lookAtDisk hlist), run_pure, filterMap_idOfFileName? hvalid]

/-- Two ids, one of two points and one that looks like a temporary name in another directory. The
data file of the first is there; that of the second is still being written. -/
theorem fileNames_tell_ids_points :
    let id := ".."
    let id' := "../é %2E.json.tmp"
    let directoryOf (names : List String) : Disk :=
      ⟨(["datasets"], .directory) :: names.map fun name => (["datasets", name], .file []), []⟩
    let files : List (FilePurpose × String) :=
      [(.info, id'), (.data, id), (.newData, id'), (.info, id)]
    let store : DatasetStore :=
      ⟨"/", [], directoryOf (files.map fun file => fileName file.1 file.2)⟩
    isValidId id = true ∧ isValidId id' = true ∧ fileName .data id = "...json" ∧
      fileName .newData id' = "..%2F%C3%A9%20%252E.json.tmp.json.tmp" ∧
      Path.ofText "/datasets/...json" = ["datasets", "...json"] ∧
      fileName .data id ≠ fileName .newInfo id' ∧ fileIds.run store = (.ok [id], store) := by
  intro id id' directoryOf files store
  have hid : isValidId id = true := by decide
  have hid' : isValidId id' = true := by decide
  have hvalid : ∀ file ∈ files, isValidId file.2 = true := by
    intro file hfile
    simp only [files, List.mem_cons, List.not_mem_nil, or_false] at hfile
    obtain rfl | rfl | rfl | rfl := hfile <;> assumption
  have hname : fileName .data id = "...json" := by decide
  obtain ⟨hsingle, hinjective, -, hlisted⟩ := fileNames_tell_ids hid
  have hapart : fileName .data id ≠ fileName .newInfo id' := fun h =>
    absurd ((hinjective _ _ _).mp h).1 (by decide)
  refine ⟨hid, hid', hname, by decide, ?_, hapart, hlisted store files hvalid (by rfl)⟩
  have hpath := (hsingle .data).2 "/datasets"
  rw [hname] at hpath
  exact hpath

end DatasetStore

end Registrar
