import Registrar.Toml.Basic

/-!
# Building tables

A document fills its tables piece by piece: a line under a header, with a name that may have several
parts, or another header. No name is set twice and no table is opened twice. A table that was only
passed through on the way to another one may still be opened once by its own header; a table made by
a name with several parts may only be added to by such names.

## Main definitions

* `Entry`, `Entries` — tables while they are built.
* `Entries.insert?` — sets the value of a name with several parts.
* `Outline` — a document while it is built: `Outline.openTable?`, `Outline.openItem?`,
  `Outline.insert?` and `Outline.close?` add to it.
-/

namespace Registrar

namespace Toml

/-- What a name stands for while its table is built. -/
inductive Entry where
  | value (value : Toml)
  /-- A table; `passed` tells that it has no header of its own yet, and `byParts` that it was made
  by a name with several parts. -/
  | table (passed byParts : Bool) (entries : List (String × Entry))
  /-- The tables that were opened as items of an array. -/
  | items (tables : List (List (String × Entry)))

/-- The entries of a table. -/
abbrev Entries := List (String × Entry)

mutual

/-- The finished value of an entry. -/
def Entry.finish : Entry → Toml
  | .value value => value
  | .table _ _ entries => .table (finishEntries entries)
  | .items tables => .array (finishTables tables)

/-- The finished members of a table. -/
def finishEntries : List (String × Entry) → List (String × Toml)
  | [] => []
  | (name, entry) :: entries => (name, entry.finish) :: finishEntries entries

/-- The finished items of an array of tables. -/
def finishTables : List (List (String × Entry)) → List Toml
  | [] => []
  | entries :: tables => .table (finishEntries entries) :: finishTables tables

end

namespace Entries

/-- Replaces the entry of a name, or adds it at the end. -/
def put (name : String) (entry : Entry) : Entries → Entries
  | [] => [(name, entry)]
  | (other, kept) :: entries =>
    if other = name then (name, entry) :: entries else (other, kept) :: put name entry entries

/-- Takes away the entry of a name. -/
def drop (name : String) (entries : Entries) : Entries :=
  entries.filter fun entry => entry.1 ≠ name

/-- Follows a path from table to table, making those that are missing, and changes the table at its
end. `byParts` tells whether the path is the front of a name, and not of a header; `change` also
learns whether the table at the end was made by such a name. -/
def changeAt? {α : Type} (byParts : Bool) (change : Bool → Entries → Option (α × Entries)) :
    List String → Bool → Entries → Option (α × Entries)
  | [], madeByParts, entries => change madeByParts entries
  | name :: path, _, entries =>
    match entries.lookup name with
    | none => do
      let (result, inner) ← changeAt? byParts change path byParts []
      some (result, entries.put name (.table true byParts inner))
    | some (.value _) => none
    | some (.items tables) =>
      match tables.getLast? with
      | none => none
      | some last => do
        let (result, inner) ← changeAt? byParts change path false last
        some (result, entries.put name (.items (tables.dropLast ++ [inner])))
    | some (.table passed madeByParts inner) =>
      if byParts && !passed then none
      else do
        let (result, inner) ← changeAt? byParts change path madeByParts inner
        some (result, entries.put name (.table passed madeByParts inner))

/-- Sets the value of a name with several parts, the last of which is `name`. The table that it goes
into was made by such a name, or is the one at hand if there is only one part. -/
def insert? (path : List String) (name : String) (value : Toml) (entries : Entries) :
    Option Entries :=
  let change (madeByParts : Bool) (inner : Entries) : Option (Unit × Entries) :=
    if madeByParts == path.isEmpty || (inner.lookup name).isSome then none
    else some ((), inner.put name (.value value))
  (changeAt? true change path false entries).map Prod.snd

end Entries

/-! ### Documents -/

/-- A document while it is built. -/
structure Outline where
  /-- What stands under the headers that are closed. -/
  root : Entries
  /-- The last header; empty before the first one. -/
  header : List String
  /-- Whether the last header opened an item of an array. -/
  isItem : Bool
  /-- What stands under the last header. -/
  current : Entries

namespace Outline

/-- The outline of an empty document. -/
def empty : Outline := ⟨[], [], false, []⟩

/-- Adds the value of a name with several parts under the last header. -/
def insert? (outline : Outline) (path : List String) (name : String) (value : Toml) :
    Option Outline := do
  return { outline with current := ← outline.current.insert? path name value }

/-- Puts what stands under the last header in its place. -/
def close? (outline : Outline) : Option Entries :=
  match outline.header.getLast? with
  | none => some outline.current
  | some name =>
    let change (_ : Bool) (entries : Entries) : Option (Unit × Entries) :=
      match entries.lookup name, outline.isItem with
      | none, true => some ((), entries.put name (.items [outline.current]))
      | some (.items tables), true =>
        some ((), entries.put name (.items (tables ++ [outline.current])))
      | none, false => some ((), entries.put name (.table false false outline.current))
      | some (.table true _ _), false =>
        some ((), entries.put name (.table false false outline.current))
      | _, _ => none
    (Entries.changeAt? false change outline.header.dropLast false outline.root).map Prod.snd

/-- Opens the table of a header. What was put into it on the way to other tables stays. -/
def openTable? (outline : Outline) (path : List String) (name : String) : Option Outline := do
  let root ← outline.close?
  let change (_ : Bool) (entries : Entries) : Option (Entries × Entries) :=
    match entries.lookup name with
    | none => some ([], entries)
    | some (.table true false inner) => some (inner, entries.drop name)
    | some _ => none
  let (current, root) ← Entries.changeAt? false change path false root
  return ⟨root, path ++ [name], false, current⟩

/-- Opens one more item of the array of tables of a header. -/
def openItem? (outline : Outline) (path : List String) (name : String) : Option Outline := do
  let root ← outline.close?
  let change (_ : Bool) (entries : Entries) : Option (Unit × Entries) :=
    match entries.lookup name with
    | none => some ((), entries)
    | some (.items _) => some ((), entries)
    | some _ => none
  let (_, root) ← Entries.changeAt? false change path false root
  return ⟨root, path ++ [name], true, []⟩

/-- The finished document. -/
def finish? (outline : Outline) : Option Toml := do
  return .table (finishEntries (← outline.close?))

end Outline

end Toml

end Registrar
