import Registrar.CommandLine.Report
import Registrar.Query.Export

/-!
# Comma-separated values are read back

The reader here is a second account of the format, made to be hard to please. It goes through a text
character by character and refuses what no writer should write: a quote or a carriage return in a
field without quotes, and text behind the closing quote of a field. And it takes a line with nothing
on it for no record at all, as readers do. So what it makes of a text, a reader that is lenient in
one of these points makes of it too.

The blank line is the reason why a record with one empty field is written in quotes. There is no
such way out for a record without fields, so the statements are about records with some.

## Main definitions

* `Csv.Place`, `Csv.read` — the reader, by the place in the text.
* `Csv.decode?` — the records of a text.
* `Csv.encodeEven?` — writing that insists on records of the same length.

## Main results

* `Csv.decode?_encode` — records with fields are read back.
* `results_read_back` — results of queries are read back, from the service and from the command
  line.
-/

namespace Registrar

namespace Csv

/-! ### Reading -/

/-- A place in a text. -/
inductive Place where
  | lineStart
  | fieldStart
  /-- In a field without quotes. -/
  | plain
  /-- Between quotes. -/
  | quoted
  /-- Behind a quote that closes a field, unless another quote follows. -/
  | closed
deriving DecidableEq, Repr

/-- Reads on from a place, with what has been read of the field and of the record. -/
def read : Place → List Char → List String → List Char → Option (List (List String))
  | .lineStart, _, _, [] => some []
  | .quoted, _, _, [] => none
  | _, field, fields, [] => some [fields ++ [String.ofList field]]
  | .quoted, field, fields, c :: rest =>
    if c = '"' then read .closed field fields rest else read .quoted (field ++ [c]) fields rest
  | place, field, fields, c :: rest =>
    if c = '\n' then
      if place = .lineStart then read .lineStart [] [] rest
      else (read .lineStart [] [] rest).map ((fields ++ [String.ofList field]) :: ·)
    else if c = ',' then read .fieldStart [] (fields ++ [String.ofList field]) rest
    else if c = '"' then
      match place with
      | .plain => none
      | .closed => read .quoted (field ++ [c]) fields rest
      | _ => read .quoted field fields rest
    else if c = '\r' ∨ place = .closed then none
    else read .plain (field ++ [c]) fields rest

/-- The records of a text. A line with nothing on it is no record. -/
def decode? (text : String) : Option (List (List String)) :=
  read .lineStart [] [] text.toList

/-- Records as comma-separated values, if all have as many fields as the first one. -/
def encodeEven? : List (List String) → Option String
  | [] => some (encode [])
  | first :: others =>
    if others.all fun record => record.length = first.length then some (encode (first :: others))
    else none

variable {field rest : List Char} {fields : List String} {place : Place}

/-! ### Fields -/

/-- A character outside quotes ends the record or the field, opens quotes, or is kept. -/
theorem read_outside {c : Char} (hquoted : place ≠ .quoted) :
    read place field fields (c :: rest) =
      if c = '\n' then
        if place = .lineStart then read .lineStart [] [] rest
        else (read .lineStart [] [] rest).map ((fields ++ [String.ofList field]) :: ·)
      else if c = ',' then read .fieldStart [] (fields ++ [String.ofList field]) rest
      else if c = '"' then
        if place = .plain then none
        else if place = .closed then read .quoted (field ++ [c]) fields rest
        else read .quoted field fields rest
      else if c = '\r' ∨ place = .closed then none
      else read .plain (field ++ [c]) fields rest := by
  cases place with
  | quoted => exact absurd rfl hquoted
  | lineStart | fieldStart | plain | closed => simp [read]

/-- A quote between quotes closes them for now; any other character goes into the field. -/
theorem read_inside {c : Char} :
    read .quoted field fields (c :: rest) =
      if c = '"' then read .closed field fields rest
      else read .quoted (field ++ [c]) fields rest := by
  rw [read]

theorem read_newline (hstart : place ≠ .lineStart) (hquoted : place ≠ .quoted) :
    read place field fields ('\n' :: rest) =
      (read .lineStart [] [] rest).map ((fields ++ [String.ofList field]) :: ·) := by
  rw [read_outside hquoted, if_pos rfl, if_neg hstart]

theorem read_comma (hquoted : place ≠ .quoted) :
    read place field fields (',' :: rest) =
      read .fieldStart [] (fields ++ [String.ofList field]) rest := by
  rw [read_outside hquoted, if_neg (by decide), if_pos rfl]

theorem read_quote (hplace : place = .lineStart ∨ place = .fieldStart) :
    read place field fields ('"' :: rest) = read .quoted field fields rest := by
  have hother : place ≠ .quoted ∧ place ≠ .plain ∧ place ≠ .closed := by
    obtain rfl | rfl := hplace <;> decide
  rw [read_outside hother.1, if_neg (by decide), if_neg (by decide), if_pos rfl,
    if_neg hother.2.1, if_neg hother.2.2]

/-- A character that needs no quotes goes into a field without quotes. -/
theorem read_plain {c : Char} (hc : needsQuotes c = false) (hquoted : place ≠ .quoted)
    (hclosed : place ≠ .closed) :
    read place field fields (c :: rest) = read .plain (field ++ [c]) fields rest := by
  simp only [needsQuotes, Bool.or_eq_false_iff, beq_eq_false_iff_ne, ne_eq] at hc
  obtain ⟨⟨⟨hcomma, hquote⟩, hnewline⟩, hreturn⟩ := hc
  rw [read_outside hquoted, if_neg hnewline, if_neg hcomma, if_neg hquote,
    if_neg (not_or.mpr ⟨hreturn, hclosed⟩)]

/-- A field without quotes is read to its end. -/
theorem read_append_plain {text : List Char} (h : text.any needsQuotes = false) :
    read .plain field fields (text ++ rest) = read .plain (field ++ text) fields rest := by
  induction text generalizing field with
  | nil => rw [List.nil_append, List.append_nil]
  | cons c text ih =>
    rw [List.any_cons, Bool.or_eq_false_iff] at h
    rw [List.cons_append, read_plain h.1 (by decide) (by decide), ih h.2, List.append_assoc,
      List.singleton_append]

theorem read_quoted_pair :
    read .quoted field fields ('"' :: '"' :: rest) = read .quoted (field ++ ['"']) fields rest := by
  rw [read_inside, if_pos rfl, read_outside (by decide), if_neg (by decide), if_neg (by decide),
    if_pos rfl, if_neg (by decide), if_pos rfl]

/-- A field between quotes is read to its closing quote, each pair of quotes in it as one. -/
theorem read_append_quoted {text : List Char} :
    read .quoted field fields
        (text.flatMap (fun c => if c = '"' then ['"', '"'] else [c]) ++ '"' :: rest) =
      read .closed (field ++ text) fields rest := by
  induction text generalizing field with
  | nil => rw [List.flatMap_nil, List.nil_append, read_inside, if_pos rfl, List.append_nil]
  | cons c text ih =>
    rw [List.flatMap_cons, List.append_assoc, List.append_cons field c text]
    by_cases hc : c = '"'
    · rw [if_pos hc, hc, List.cons_append, List.cons_append, List.nil_append, read_quoted_pair, ih]
    · rw [if_neg hc, List.cons_append, List.nil_append, read_inside, if_neg hc, ih]

/-- **A field is read back**, up to a place from which the record or the field can end. -/
theorem read_encodeField (field : String) (fields : List String) (rest : List Char) :
    ∃ place, place ≠ .lineStart ∧ place ≠ .quoted ∧
      read .fieldStart [] fields (encodeField field ++ rest) =
        read place field.toList fields rest := by
  rw [encodeField]
  split
  · refine ⟨.closed, by decide, by decide, ?_⟩
    rw [quoteField, List.cons_append, List.cons_append, read_quote (.inr rfl), List.append_assoc,
      List.singleton_append, read_append_quoted, List.nil_append]
  · next hplain =>
    rw [Bool.not_eq_true] at hplain
    cases htext : field.toList with
    | nil => exact ⟨.fieldStart, by decide, by decide, rfl⟩
    | cons c text =>
      rw [htext, List.any_cons, Bool.or_eq_false_iff] at hplain
      refine ⟨.plain, by decide, by decide, ?_⟩
      rw [List.cons_append, read_plain hplain.1 (by decide) (by decide),
        read_append_plain hplain.2, List.nil_append, List.singleton_append]

/-! ### Records -/

/-- Fields with commas between them are read to the end of their line. -/
theorem read_encodeFields (field : String) (others : List String) (rest : List Char) :
    read .fieldStart [] fields (encodeFields (field :: others) ++ '\n' :: rest) =
      (read .lineStart [] [] rest).map ((fields ++ field :: others) :: ·) := by
  induction others generalizing field fields with
  | nil =>
    obtain ⟨place, hstart, hquoted, hread⟩ :=
      read_encodeField field fields ('\n' :: rest)
    rw [encodeFields, encodeTail, List.flatMap_nil, List.append_nil, hread,
      read_newline hstart hquoted, String.ofList_toList]
  | cons next others ih =>
    obtain ⟨place, -, hquoted, hread⟩ := read_encodeField field fields
      (',' :: (encodeFields (next :: others) ++ '\n' :: rest))
    have hline : encodeFields (field :: next :: others) ++ '\n' :: rest =
        encodeField field ++ ',' :: (encodeFields (next :: others) ++ '\n' :: rest) := by
      simp [encodeFields, encodeTail]
    rw [hline, hread, read_comma hquoted, ih, String.ofList_toList, List.append_assoc,
      List.singleton_append]

/-- A line with something on it is a record. -/
theorem read_lineStart {text : List Char} (hne : text ≠ []) (hline : text.head? ≠ some '\n') :
    read .lineStart [] [] text = read .fieldStart [] [] text := by
  cases text with
  | nil => exact absurd rfl hne
  | cons c rest =>
    have hc : c ≠ '\n' := fun hc => hline (congrArg some hc)
    rw [read_outside (by decide), read_outside (by decide), if_neg hc, if_neg hc]
    simp only [reduceCtorEq, if_false]

/-- No field starts with a line break. -/
theorem head?_encodeFields (field : String) (others : List String) :
    (encodeFields (field :: others)).head? ≠ some '\n' := by
  intro h
  rw [encodeFields, encodeField] at h
  split at h
  · cases h
  · next hplain =>
    cases htext : field.toList with
    | nil =>
      rw [htext, List.nil_append] at h
      cases others with
      | nil => cases h
      | cons next others => cases h
    | cons c text =>
      rw [htext] at h hplain
      cases h
      simp [needsQuotes] at hplain

/-- The only line with nothing on it is that of one empty field. -/
theorem encodeFields_eq_nil {field : String} {others : List String}
    (h : encodeFields (field :: others) = []) : field = "" ∧ others = [] := by
  obtain ⟨hfield, htail⟩ := List.append_eq_nil_iff.mp h
  constructor
  · rw [encodeField] at hfield
    split at hfield
    · cases hfield
    · exact String.toList_eq_nil_iff.mp hfield
  · cases others with
    | nil => rfl
    | cons next others => cases htail

/-- **A record with fields is read back.** -/
theorem read_encodeRecord {record : List String} (h : record ≠ []) (rest : List Char) :
    read .lineStart [] [] (encodeRecord record ++ rest) =
      (read .lineStart [] [] rest).map (record :: ·) := by
  obtain ⟨field, others, rfl⟩ := List.exists_cons_of_ne_nil h
  rw [encodeRecord, List.append_assoc, List.singleton_append]
  split
  · next hempty =>
    -- Nothing is written for the fields, so there is one, and it is empty.
    obtain ⟨rfl, rfl⟩ := encodeFields_eq_nil (List.isEmpty_iff.mp hempty)
    rw [List.cons_append, List.cons_append, List.nil_append, read_quote (.inl rfl), read_inside,
      if_pos rfl, read_newline (by decide) (by decide)]
    rfl
  · next hline =>
    have hhead := head?_encodeFields field others
    have hne : encodeFields (field :: others) ≠ [] := by simpa using hline
    rw [read_lineStart (by simp) ?_, read_encodeFields, List.nil_append]
    rwa [List.head?_append, Option.or_of_isSome (by simpa using hne)]

/-- **Records with fields are read back.** -/
theorem decode?_encode {records : List (List String)} (h : ∀ record ∈ records, record ≠ []) :
    decode? (encode records) = some records := by
  rw [decode?, encode, String.toList_ofList]
  induction records with
  | nil => rfl
  | cons record records ih =>
    obtain ⟨hrecord, hrecords⟩ := List.forall_mem_cons.mp h
    rw [List.flatMap_cons, read_encodeRecord hrecord, ih hrecords, Option.map_some]

/-! ### Sheets -/

/-- The names of columns, and below them the cells of rows. -/
def sheet {α : Type} (columns : List String) (rows : List α) (cell : α → String → String) :
    List (List String) :=
  columns :: rows.map fun row => columns.map (cell row)

/-- A text holds a sheet: it is written under the eyes of a writer that insists on records of the
same length, and its records are the names of the columns and then the cells of one row each. -/
structure HoldsSheet {α : Type} (text : String) (columns : List String) (rows : List α)
    (cell : α → String → String) : Prop where
  written : encodeEven? (sheet columns rows cell) = some text
  readBack : decode? text = some (sheet columns rows cell)
  records : (sheet columns rows cell).length = 1 + rows.length
  fields : ∀ record ∈ sheet columns rows cell, record.length = columns.length

theorem length_of_mem_sheet {α : Type} {columns : List String} {rows : List α}
    {cell : α → String → String} {record : List String} (h : record ∈ sheet columns rows cell) :
    record.length = columns.length := by
  obtain rfl | h := List.mem_cons.mp h
  · rfl
  · obtain ⟨row, -, rfl⟩ := List.mem_map.mp h
    exact List.length_map _

/-- **A sheet with columns is held by the text that is written for it.** -/
theorem holdsSheet_encode {α : Type} {columns : List String} (rows : List α)
    (cell : α → String → String) (h : columns ≠ []) :
    HoldsSheet (encode (sheet columns rows cell)) columns rows cell where
  written := by
    refine if_pos (List.all_eq_true.mpr fun record hrecord => decide_eq_true ?_)
    exact length_of_mem_sheet (List.mem_cons_of_mem columns hrecord)
  readBack := by
    refine decode?_encode fun record hrecord hempty => h ?_
    rw [← List.length_eq_zero_iff, ← length_of_mem_sheet hrecord, hempty, List.length_nil]
  records := by rw [sheet, List.length_cons, List.length_map, Nat.add_comm]
  fields _ := length_of_mem_sheet

end Csv

/-! ### Results -/

/-- The text of a cell of a result; one that is not there has none. -/
def Output.cellText (row : Row) (column : String) : String :=
  match row.get? column with
  | some value => value.display
  | none => ""

theorem Output.toCsv_eq (output : Output) :
    output.toCsv = Csv.encode (Csv.sheet output.columns output.rows Output.cellText) := by
  have hcell (row : Row) (column : String) :
      ((row.get? column).map FieldValue.display).getD "" = Output.cellText row column := by
    rw [Output.cellText]
    cases row.get? column <;> rfl
  rw [Output.toCsv, Csv.sheet]
  exact congrArg (fun rows => Csv.encode (output.columns :: rows)) (List.map_congr_left
    fun row _ => List.map_congr_left fun column _ => hcell row column)

/-- **Results are read back.** What the service writes for a result with columns is a sheet of the
texts of its cells, whatever texts these and the names of the columns are. So is what the command
line writes for an answer that names columns. -/
theorem results_read_back :
    (∀ output : Output, output.columns ≠ [] →
      Csv.HoldsSheet output.toCsv output.columns output.rows Output.cellText) ∧
    ∀ answer : Json, Report.columnNames answer ≠ [] →
      Csv.HoldsSheet (Report.csv answer) (Report.columnNames answer)
        ((answer.member "result").items?.getD [])
        fun row name => Report.csvField (row.member name) := by
  refine ⟨fun output h => ?_, fun answer h => Csv.holdsSheet_encode _ _ h⟩
  rw [Output.toCsv_eq]
  exact Csv.holdsSheet_encode _ _ h

/-- Two rows of one column without a name, of which one lacks the cell; and an answer with a cell
that takes two lines. -/
theorem results_read_back_blank :
    let output : Output :=
      ⟨[""], [Row.empty.insert "" (.text "a,\"b\"\r\n"), Row.empty], 2⟩
    let answer : Json := .object [("columns", .array [.string "x", .null, .string "y"]),
      ("result", .array [.object [("x", .string "\n"), ("y", .bool true)], .object []])]
    output.toCsv = "\"\"\n\"a,\"\"b\"\"\r\n\"\n\"\"\n" ∧
      Csv.decode? output.toCsv = some [[""], ["a,\"b\"\r\n"], [""]] ∧
      Report.csv answer = "x,y\n\"\n\",true\n,\n" ∧
      Csv.decode? (Report.csv answer) = some [["x", "y"], ["\n", "true"], ["", ""]] :=
  ⟨by decide, (results_read_back.1 _ (by decide)).readBack, by decide,
    (results_read_back.2 _ (by decide)).readBack⟩

end Registrar
