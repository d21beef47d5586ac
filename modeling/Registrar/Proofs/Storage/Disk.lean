import Mathlib.Logic.Function.Basic
import Registrar.Proofs.Json.Members
import Registrar.Proofs.Outcome
import Registrar.Proofs.Text.Encoding
import Registrar.Storage.Disk

/-!
# A directory of files

What a store needs of a disk is one directory with files in it. On a disk without faults ahead the
operations on such a directory do what they do on a map from names to contents, as long as the names
are not too long.

## Main definitions

* `Disk.Holds` — the directory at a path holds these files and nothing else.
* `Disk.Fits` — a name is not too long.

## Main results

* `Holds.find`, `Holds.list` — what is found in the directory.
* `Holds.write`, `Holds.rename`, `Holds.removeFile` — how the files change.
-/

namespace Registrar

namespace Disk

/-- The name of a file is not too long for the disk. -/
def Fits (name : String) : Prop :=
  name.utf8ByteSize ≤ maxNameLength

instance (name : String) : Decidable (Fits name) :=
  inferInstanceAs (Decidable (_ ≤ _))

/-- The directory at a path holds the given files and nothing else; no faults lie ahead. -/
structure Holds (disk : Disk) (path : Path) (files : String → Option (List UInt8)) : Prop where
  healthy : disk.schedule = []
  directory : disk.find path = .ok .directory
  file : ∀ name, disk.nodes.lookup (path ++ [name]) = (files name).map .file

variable {disk : Disk} {path : Path} {files : String → Option (List UInt8)} {name : String}

/-! ### Ways through directories -/

theorem nodeAt?_append (base : Path) (name : String) :
    disk.nodeAt? (base ++ [name]) = disk.nodes.lookup (base ++ [name]) := by
  rw [nodeAt?, if_neg]
  cases base <;> simp

theorem follow_nil_eq_ok_iff {base : Path} {node : Node} :
    disk.follow base [] = .ok node ↔ disk.nodeAt? base = some node := by
  rw [follow]
  cases disk.nodeAt? base <;> simp

/-- A way that comes to something goes from directory to directory. -/
theorem follow_cons_eq_ok_iff {base : Path} {name : String} {names : List String} {node : Node} :
    disk.follow base (name :: names) = .ok node ↔ disk.nodeAt? base = some .directory ∧
      Fits name ∧ disk.follow (base ++ [name]) names = .ok node := by
  rw [follow]
  split
  · next hnode => simp [hnode]
  · next hnode => simp [hnode]
  · next hnode =>
    by_cases hfits : Fits name
    · simp [hnode, hfits, if_neg (Nat.not_lt.mpr hfits)]
    · simp [hnode, hfits, if_pos (Nat.not_le.mp hfits)]

theorem nodeAt?_of_follow {base : Path} {names : List String}
    (h : disk.follow base names = .ok .directory) : disk.nodeAt? base = some .directory := by
  cases names with
  | nil => exact follow_nil_eq_ok_iff.mp h
  | cons name names => exact (follow_cons_eq_ok_iff.mp h).1

/-- What is found at the end of a way is there. -/
theorem nodeAt?_append_of_follow {base : Path} {names : List String} {node : Node}
    (h : disk.follow base names = .ok node) : disk.nodeAt? (base ++ names) = some node := by
  induction names generalizing base with
  | nil => rw [List.append_nil, follow_nil_eq_ok_iff.mp h]
  | cons name names ih =>
    obtain ⟨-, -, hrest⟩ := follow_cons_eq_ok_iff.mp h
    rw [← ih hrest, List.append_assoc, List.singleton_append]

/-- A way leads through a directory before its last name. -/
theorem follow_of_follow_append {base : Path} {names : List String} {name : String} {node : Node}
    (h : disk.follow base (names ++ [name]) = .ok node) :
    disk.follow base names = .ok .directory := by
  induction names generalizing base with
  | nil => exact follow_nil_eq_ok_iff.mpr (follow_cons_eq_ok_iff.mp h).1
  | cons first names ih =>
    obtain ⟨hbase, hfits, hrest⟩ := follow_cons_eq_ok_iff.mp h
    exact follow_cons_eq_ok_iff.mpr ⟨hbase, hfits, ih hrest⟩

/-- The way to a name in a directory leads through the directory. -/
theorem follow_append {base : Path} {names : List String} (hfits : Fits name)
    (h : disk.follow base names = .ok .directory) :
    disk.follow base (names ++ [name]) =
      (disk.nodes.lookup (base ++ names ++ [name])).elim (.error .notFound) .ok := by
  induction names generalizing base with
  | nil =>
    rw [List.nil_append, follow, nodeAt?_of_follow h]
    simp only
    rw [if_neg (Nat.not_lt.mpr hfits), follow, nodeAt?_append, List.append_nil]
    cases disk.nodes.lookup (base ++ [name]) <;> rfl
  | cons first names ih =>
    obtain ⟨hbase, hfirst, hrest⟩ := follow_cons_eq_ok_iff.mp h
    rw [List.cons_append, follow, hbase]
    simp only [if_neg (Nat.not_lt.mpr hfirst), ih hrest, List.append_assoc, List.cons_append,
      List.nil_append]

/-- A name that is too long is not looked for. -/
theorem follow_append_of_not_fits {base : Path} {names : List String} (hlong : ¬Fits name)
    (h : disk.follow base names = .ok .directory) :
    disk.follow base (names ++ [name]) = .error .nameTooLong := by
  induction names generalizing base with
  | nil =>
    rw [List.nil_append, follow, nodeAt?_of_follow h]
    exact if_pos (Nat.not_le.mp hlong)
  | cons first names ih =>
    obtain ⟨hbase, hfirst, hrest⟩ := follow_cons_eq_ok_iff.mp h
    rw [List.cons_append, follow, hbase]
    simp only [if_neg (Nat.not_lt.mpr hfirst), ih hrest]

/-- A way depends on the nodes that it passes only. -/
theorem follow_congr {disk' : Disk} {base : Path} {names : List String}
    (h : ∀ part, part <+: names → disk'.nodeAt? (base ++ part) = disk.nodeAt? (base ++ part)) :
    disk'.follow base names = disk.follow base names := by
  induction names generalizing base with
  | nil =>
    have hbase := h [] List.nil_prefix
    rw [List.append_nil] at hbase
    rw [follow, follow, hbase]
  | cons first names ih =>
    have hbase := h [] List.nil_prefix
    rw [List.append_nil] at hbase
    have hrest : disk'.follow (base ++ [first]) names = disk.follow (base ++ [first]) names := by
      refine ih fun part hpart => ?_
      have hlonger := h (first :: part) (List.cons_prefix_cons.mpr ⟨rfl, hpart⟩)
      rwa [List.append_assoc, List.singleton_append]
    rw [follow, follow, hbase, hrest]

/-- Directories that are there need not be made. -/
theorem makeDirectories_of_follow {base : Path} {names : List String}
    (h : disk.follow base names = .ok .directory) :
    disk.makeDirectories base names = (.ok (), disk) := by
  induction names generalizing base with
  | nil => rw [makeDirectories]
  | cons first names ih =>
    obtain ⟨-, hfirst, hrest⟩ := follow_cons_eq_ok_iff.mp h
    rw [makeDirectories]
    simp only [if_neg (Nat.not_lt.mpr hfirst), nodeAt?_of_follow hrest, ih hrest]

theorem lookup_setNode (path : Path) (node : Node) (other : Path) :
    (disk.setNode path node).nodes.lookup other =
      if other = path then some node else disk.nodes.lookup other := by
  rw [setNode, lookup_cons_eq_ite]
  split
  · rfl
  · next hother => rw [lookup_filter_ne, if_neg hother]

theorem lookup_eraseNode (path other : Path) :
    (disk.eraseNode path).nodes.lookup other =
      if other = path then none else disk.nodes.lookup other :=
  lookup_filter_ne

theorem nodeAt?_setNode_of_ne {other : Path} (h : path ≠ other) (node : Node) :
    (disk.setNode other node).nodeAt? path = disk.nodeAt? path := by
  rw [nodeAt?, nodeAt?, lookup_setNode, if_neg h]

/-- Making directories changes nothing below them. -/
theorem nodeAt?_makeDirectories (disk : Disk) {base : Path} {names : List String}
    (h : base.length + names.length < path.length) :
    (disk.makeDirectories base names).2.nodeAt? path = disk.nodeAt? path := by
  induction names generalizing disk base with
  | nil => rfl
  | cons name names ih =>
    rw [List.length_cons] at h
    have hbase : (base ++ [name]).length = base.length + 1 := List.length_append
    have hne : path ≠ base ++ [name] := by
      rintro rfl
      omega
    rw [makeDirectories]
    split
    · rfl
    split
    · exact ih disk (by omega)
    · rfl
    · rw [ih _ (by omega), nodeAt?_setNode_of_ne hne]

/-- Where a file can be written, the way leads to a directory, and from there to a file or to
nothing. -/
theorem writeFault?_eq_none_iff : disk.writeFault? path = none ↔
    disk.find path.dropLast = .ok .directory ∧
      (disk.find path = .error .notFound ∨ ∃ content, disk.find path = .ok (.file content)) := by
  rw [writeFault?]
  split <;> simp_all

/-- A file that can be written is found afterwards. -/
theorem find_setNode (h : disk.writeFault? path = none) (content : List UInt8) :
    (disk.setNode path (.file content)).find path = .ok (.file content) := by
  obtain ⟨hparent, hpath⟩ := writeFault?_eq_none_iff.mp h
  obtain rfl | ⟨parent, name, rfl⟩ := List.eq_nil_or_concat' path
  · rw [show disk.find [] = .ok .directory from hparent] at hpath
    simp at hpath
  rw [List.dropLast_concat] at hparent
  have hfits : Fits name := by
    by_contra hlong
    rw [find, follow_append_of_not_fits hlong hparent] at hpath
    simp at hpath
  have hparent' : (disk.setNode (parent ++ [name]) (.file content)).follow [] parent =
      .ok .directory := by
    refine (follow_congr fun part hpart => ?_).trans hparent
    refine nodeAt?_setNode_of_ne (fun heq => ?_) _
    have hlength := hpart.length_le
    rw [List.nil_append] at heq
    rw [heq, List.length_append, List.length_singleton] at hlength
    omega
  rw [find, follow_append hfits hparent', List.nil_append, lookup_setNode, if_pos rfl]
  rfl

/-! ### Looking -/

namespace Holds

theorem takeFault (h : disk.Holds path files) : disk.takeFault = (false, disk) := by
  rw [Disk.takeFault, h.healthy]

theorem find (h : disk.Holds path files) (hfits : Fits name) :
    disk.find (path ++ [name]) =
      (files name).elim (.error .notFound) fun content => .ok (.file content) := by
  rw [Disk.find, follow_append hfits h.directory, List.nil_append, h.file]
  cases files name <;> rfl

theorem exists? (h : disk.Holds path files) (hfits : Fits name) :
    disk.exists? (path ++ [name]) = (.ok (files name).isSome, disk) := by
  rw [Disk.exists?, h.takeFault]
  simp only [Bool.false_eq_true, if_false, probe, h.find hfits]
  cases files name <;> rfl

theorem readBytes (h : disk.Holds path files) (hfits : Fits name) {content : List UInt8}
    (hfile : files name = some content) : disk.readBytes (path ++ [name]) = .ok content := by
  rw [Disk.readBytes, h.find hfits, hfile]
  rfl

theorem readText (h : disk.Holds path files) (hfits : Fits name) {text : String}
    (hfile : files name = some (utf8Bytes text)) : disk.readText (path ++ [name]) = .ok text := by
  rw [Disk.readText, h.readBytes hfits hfile, bind_ok, textOfUtf8?_utf8Bytes]
  rfl

theorem readText_none (h : disk.Holds path files) (hfits : Fits name) (hfile : files name = none) :
    disk.readText (path ++ [name]) = .error .notFound := by
  rw [Disk.readText, Disk.readBytes, h.find hfits, hfile]
  rfl

/-- The names in the directory, in some order. -/
theorem list (h : disk.Holds path files) :
    ∃ names, disk.list path = .ok names ∧ ∀ name, name ∈ names ↔ (files name).isSome := by
  rw [Disk.list, h.directory, bind_ok]
  refine ⟨_, rfl, fun name => ?_⟩
  rw [← Option.isSome_map, ← h.file, ← mem_names_iff, List.mem_filterMap, List.mem_map]
  refine exists_congr fun entry => and_congr_right fun _ => ?_
  split
  · next last hlast =>
    split
    · next hentry => simp [hentry]
    · next hentry =>
      refine ⟨fun h => (nomatch h), fun hname => ?_⟩
      rw [hname, List.getLast?_concat] at hlast
      exact absurd (hname.trans (congrArg (fun last => path ++ [last]) (Option.some.inj hlast)))
        hentry
  · next hlast =>
    refine ⟨fun h => (nomatch h), fun hname => ?_⟩
    rw [hname, List.getLast?_concat] at hlast
    cases hlast

/-! ### Changing -/

/-- Nothing keeps a file from being written. -/
theorem writeFault? (h : disk.Holds path files) (hfits : Fits name) :
    disk.writeFault? (path ++ [name]) = none := by
  rw [Disk.writeFault?, List.dropLast_concat, h.directory, h.find hfits]
  cases files name <;> rfl

/-- A change of a file in the directory changes nothing on the way to the directory. -/
theorem find_directory (h : disk.Holds path files) {disk' : Disk}
    (hnodes : ∀ other, (∀ name, other ≠ path ++ [name]) →
      disk'.nodes.lookup other = disk.nodes.lookup other) :
    disk'.find path = .ok .directory := by
  rw [← h.directory]
  refine follow_congr fun part hpart => ?_
  rw [List.nil_append, nodeAt?, nodeAt?]
  refine congrArg (ite _ _) (hnodes part fun name hname => ?_)
  have hlength := hpart.length_le
  rw [hname, List.length_append, List.length_singleton] at hlength
  omega

theorem setNode (h : disk.Holds path files) (name : String) (content : List UInt8) :
    (disk.setNode (path ++ [name]) (.file content)).Holds path
      (Function.update files name (some content)) where
  healthy := h.healthy
  directory := h.find_directory fun other hother => by
    rw [lookup_setNode, if_neg (hother name)]
  file other := by
    rw [lookup_setNode, h.file, Function.update_apply]
    by_cases hname : other = name
    · rw [if_pos (by rw [hname]), if_pos hname]
      rfl
    · rw [if_neg (by simpa using hname), if_neg hname]

theorem eraseNode (h : disk.Holds path files) (name : String) :
    (disk.eraseNode (path ++ [name])).Holds path (Function.update files name none) where
  healthy := h.healthy
  directory := h.find_directory fun other hother => by
    rw [lookup_eraseNode, if_neg (hother name)]
  file other := by
    rw [lookup_eraseNode, h.file, Function.update_apply]
    by_cases hname : other = name
    · rw [if_pos (by rw [hname]), if_pos hname]
      rfl
    · rw [if_neg (by simpa using hname), if_neg hname]

/-- **A file is written.** -/
theorem write (h : disk.Holds path files) (hfits : Fits name) (content : List UInt8) :
    ∃ disk', disk.write (path ++ [name]) content = (.ok (), disk') ∧
      disk'.Holds path (Function.update files name (some content)) := by
  refine ⟨disk.setNode (path ++ [name]) (.file content), ?_, h.setNode name content⟩
  rw [Disk.write, h.takeFault]
  simp only [Bool.false_eq_true, if_false, h.writeFault? hfits]

/-- **A file is moved.** -/
theorem rename (h : disk.Holds path files) {source target : String} (hsource : Fits source)
    (htarget : Fits target) {content : List UInt8} (hfile : files source = some content) :
    ∃ disk', disk.rename (path ++ [source]) (path ++ [target]) = (.ok (), disk') ∧
      disk'.Holds path
        (Function.update (Function.update files source none) target (some content)) := by
  refine ⟨_, ?_, (h.eraseNode source).setNode target content⟩
  rw [Disk.rename, h.takeFault]
  simp only [Bool.false_eq_true, if_false, h.writeFault? htarget, h.readBytes hsource hfile]

/-- **A file is taken away.** -/
theorem removeFile (h : disk.Holds path files) (hfits : Fits name) {content : List UInt8}
    (hfile : files name = some content) :
    ∃ disk', disk.removeFile (path ++ [name]) = (.ok (), disk') ∧
      disk'.Holds path (Function.update files name none) := by
  refine ⟨disk.eraseNode (path ++ [name]), ?_, h.eraseNode name⟩
  rw [Disk.removeFile, h.takeFault]
  simp only [Bool.false_eq_true, if_false, h.find hfits, hfile, Option.elim_some]

/-- A file that is not there cannot be taken away. -/
theorem removeFile_none (h : disk.Holds path files) (hfits : Fits name)
    (hfile : files name = none) : disk.removeFile (path ++ [name]) = (.error .notFound, disk) := by
  rw [Disk.removeFile, h.takeFault]
  simp only [Bool.false_eq_true, if_false, h.find hfits, hfile, Option.elim_none]

/-- The directory need not be made. -/
theorem createDirectories (h : disk.Holds path files) :
    disk.createDirectories path = (.ok (), disk) := by
  rw [Disk.createDirectories, h.takeFault]
  exact makeDirectories_of_follow h.directory

end Holds

/-- A directory that has just been made on a disk that holds nothing has no files in it. -/
theorem holds_createDirectories_empty (hfits : Fits name) :
    ∃ disk', empty.createDirectories [name] = (.ok (), disk') ∧
      disk'.Holds [name] fun _ => none := by
  refine ⟨empty.setNode [name] .directory, ?_, rfl, ?_, fun other => ?_⟩
  · rw [createDirectories, takeFault]
    simp only [empty, Bool.false_eq_true, if_false, makeDirectories,
      if_neg (Nat.not_lt.mpr hfits)]
    rfl
  · rw [find, follow, nodeAt?]
    simp only [List.isEmpty_nil, if_true, if_neg (Nat.not_lt.mpr hfits)]
    rw [follow, nodeAt?_append, List.nil_append, lookup_setNode, if_pos rfl]
  · rw [lookup_setNode, if_neg (by simp)]
    rfl

end Disk

end Registrar
