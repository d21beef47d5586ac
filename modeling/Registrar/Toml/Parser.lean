import Registrar.Toml.Scalar
import Registrar.Toml.Table

/-!
# Reading settings documents

A document is read line by line. A line is blank, a header in brackets, or a name with a value; a
comment may end it. Arrays may span lines, tables in braces may not. Values may be nested 79 deep,
and a name may have as many parts.

## Main definitions

* `Toml.parse?` — reads a document.
-/

namespace Registrar

namespace Toml

/-- Arrays and tables in braces are nested less deep than this, and a name has fewer parts. -/
def depthLimit : Nat := 80

/-! ### Between the tokens -/

/-- Drops a comment, if one starts here. -/
def skipComment : List Char → List Char
  | '#' :: rest => rest.dropWhile isTextChar
  | text => text

/-- Drops the end of a line: blanks, a comment and a line end or the end of the text. -/
def scanLineEnd (text : List Char) : Option (List Char) :=
  match skipComment (skipBlanks text) with
  | [] => some []
  | rest => scanNewline rest

/-- Drops blanks, comments and line ends. -/
def skipLines : Nat → List Char → List Char
  | 0, text => text
  | fuel + 1, text =>
    let rest := skipBlanks text
    match scanNewline rest with
    | some rest => skipLines fuel rest
    | none =>
      match rest with
      | '#' :: _ =>
        match scanNewline (skipComment rest) with
        | some rest => skipLines fuel rest
        | none => rest
      | _ => rest

/-! ### Names -/

/-- One part of a name, with blanks around it. -/
def scanPart (text : List Char) : Option (String × List Char) := do
  let text := skipBlanks text
  let quoted := text.head? == some '"' || text.head? == some '\''
  let (part, rest) ← if quoted then scanShortText text else scanBareName text
  some (String.ofList part, skipBlanks rest)

/-- The parts of a name after the first one. -/
def scanMoreParts : Nat → List Char → Option (List String × List Char)
  | 0, _ => none
  | fuel + 1, '.' :: rest => do
    let (part, rest) ← scanPart rest
    let (parts, rest) ← scanMoreParts fuel rest
    some (part :: parts, rest)
  | _ + 1, rest => some ([], rest)

/-- A name: the parts before the last one, and the last one. -/
def scanName (text : List Char) : Option (List String × String × List Char) := do
  let (first, rest) ← scanPart text
  let (others, rest) ← scanMoreParts (rest.length + 1) rest
  let parts := first :: others
  if depthLimit ≤ parts.length then none
  else some (parts.dropLast, parts.getLast?.getD first, rest)

/-! ### Values -/

mutual

/-- A value; `depth` more levels of nesting are allowed. -/
def scanValue : Nat → Nat → List Char → Option (Toml × List Char)
  | 0, _, _ => none
  | fuel + 1, depth, text =>
    match text with
    | '[' :: rest =>
      match depth with
      | 0 => none
      | depth + 1 => do
        let (items, rest) ← scanItems fuel depth (skipLines text.length rest)
        some (.array items, rest)
    | '\x7b' :: rest =>
      match depth, skipBlanks rest with
      | 0, _ => none
      | _ + 1, '\x7d' :: rest => some (.table [], rest)
      | depth + 1, rest => do
        let (entries, rest) ← scanMembers fuel depth [] rest
        some (.table (finishEntries entries), rest)
    | '"' :: _ => (scanText text).map fun (cs, rest) => (.string (String.ofList cs), rest)
    | '\'' :: _ => (scanText text).map fun (cs, rest) => (.string (String.ofList cs), rest)
    | 't' :: 'r' :: 'u' :: 'e' :: rest => some (.bool true, rest)
    | 'f' :: 'a' :: 'l' :: 's' :: 'e' :: rest => some (.bool false, rest)
    | _ =>
      match scanDatetime text with
      | some result => some result
      | none => scanNumber text

/-- The items of an array up to its closing bracket; a comma may follow the last one. -/
def scanItems : Nat → Nat → List Char → Option (List Toml × List Char)
  | 0, _, _ => none
  | fuel + 1, depth, text =>
    match text with
    | ']' :: rest => some ([], rest)
    | _ => do
      let (item, rest) ← scanValue fuel depth text
      match skipLines text.length rest with
      | ']' :: rest => some ([item], rest)
      | ',' :: rest => do
        let (items, rest) ← scanItems fuel depth (skipLines text.length rest)
        some (item :: items, rest)
      | _ => none

/-- The members of a table up to its closing brace, added to those that are there. -/
def scanMembers : Nat → Nat → Entries → List Char → Option (Entries × List Char)
  | 0, _, _, _ => none
  | fuel + 1, depth, entries, text => do
    let (path, name, rest) ← scanName text
    match rest with
    | '=' :: rest => do
      let (value, rest) ← scanValue fuel depth (skipBlanks rest)
      let entries ← entries.insert? path name value
      match skipBlanks rest with
      | '\x7d' :: rest => some (entries, rest)
      | ',' :: rest => scanMembers fuel depth entries rest
      | _ => none
    | _ => none

end

/-! ### Documents -/

/-- Reads a header in brackets, after the first bracket. -/
def scanHeader (outline : Outline) (text : List Char) : Option (Outline × List Char) := do
  match text with
  | '[' :: rest => do
    let (path, name, rest) ← scanName rest
    match rest with
    | ']' :: ']' :: rest => some (← outline.openItem? path name, ← scanLineEnd rest)
    | _ => none
  | _ => do
    let (path, name, rest) ← scanName text
    match rest with
    | ']' :: rest => some (← outline.openTable? path name, ← scanLineEnd rest)
    | _ => none

/-- Reads a name with its value. -/
def scanMember (outline : Outline) (text : List Char) : Option (Outline × List Char) := do
  let (path, name, rest) ← scanName text
  match rest with
  | '=' :: rest => do
    let (value, rest) ← scanValue (2 * text.length + 2) (depthLimit - 1) (skipBlanks rest)
    some (← outline.insert? path name value, ← scanLineEnd rest)
  | _ => none

/-- Reads lines to the end of the text. -/
def scanLines : Nat → Outline → List Char → Option Outline
  | 0, _, _ => none
  | fuel + 1, outline, text =>
    match skipBlanks text with
    | [] => some outline
    | '[' :: rest => do
      let (outline, rest) ← scanHeader outline rest
      scanLines fuel outline rest
    | c :: rest =>
      if c = '#' ∨ c = '\n' ∨ c = '\r' then do
        scanLines fuel outline (← scanLineEnd (c :: rest))
      else do
        let (outline, rest) ← scanMember outline (c :: rest)
        scanLines fuel outline rest

/-- The text after the byte order mark, if it starts with one. -/
def skipByteOrderMark : List Char → List Char
  | c :: rest => if c.toNat = 0xFEFF then rest else c :: rest
  | [] => []

/-- Reads a document. -/
def parse? (text : String) : Option Toml := do
  let chars := skipByteOrderMark text.toList
  (← scanLines (chars.length + 1) .empty chars).finish?

end Toml

end Registrar
