import Mathlib.Data.List.Forall2
import Registrar.CommandLine.Report
import Registrar.Proofs.Text.Encoding

/-!
# Tables are aligned

A line of a table is its cells, each with blanks up to the width of its column, and bars between
them. Where a column starts depends on the widths before it alone. So in every line that has been
made with the same widths, the cells of a column stand below each other, as long as every one of
them fits: a cell that is too wide would push the rest of its line to the right.

That all cells fit is the whole matter, because two measures meet in a width. Cells and names are
padded by their characters, and cells are measured so. But a name is measured by its bytes. Since no
character takes less than one byte, a column can be wider than its name needs, and never narrower.

## Main definitions

* `Report.Span` — the place of a column; `Report.spans` are those of all columns.
* `Report.Span.Holds`, `Report.Shows` — a cell in its column, and all cells of a line in theirs.
* `Report.IsAligned` — what the lines of a table have to do with each other.

## Main results

* `Report.fits_widths` — every name and every cell fits its column.
* `Report.length_tableLine`, `Report.shows_tableLine` — a line of cells that fit.
* `Report.table_is_aligned` — tables are aligned.
-/

namespace Registrar

namespace Report

/-- Texts fit widths, one by one. -/
def Fit (widths : List Nat) (texts : List String) : Prop :=
  List.Forall₂ (fun width text => text.length ≤ width) widths texts

/-! ### Places -/

/-- The place of a column in a line: its first character, and its number of characters. -/
structure Span where
  start : Nat
  width : Nat
deriving DecidableEq, Repr

/-- The places of columns with the given widths, the first one at the given start, with room for a
bar and two blanks between them. -/
def spans : Nat → List Nat → List Span
  | _, [] => []
  | start, width :: widths => ⟨start, width⟩ :: spans (start + width + 3) widths

/-- A line has a text at a place, from its first character on and in full. Nothing but blanks is
behind it. -/
structure Span.Holds (span : Span) (line text : String) : Prop where
  inside : span.start + span.width ≤ line.length
  fits : text.length ≤ span.width
  stands : (line.toList.drop span.start).take span.width =
    text.toList ++ List.replicate (span.width - text.length) ' '

/-- A line shows texts at places, one by one. -/
def Shows (places : List Span) (line : String) (texts : List String) : Prop :=
  List.Forall₂ (fun place text => place.Holds line text) places texts

theorem le_start_of_mem_spans {start : Nat} {widths : List Nat} {span : Span}
    (h : span ∈ spans start widths) : start ≤ span.start := by
  induction widths generalizing start with
  | nil => cases h
  | cons width widths ih =>
    obtain rfl | h := List.mem_cons.mp h
    · exact Nat.le_refl _
    · have hstart := ih h
      omega

/-- A column ends before the next one starts. -/
theorem pairwise_spans (start : Nat) (widths : List Nat) :
    (spans start widths).Pairwise fun left right => left.start + left.width < right.start := by
  induction widths generalizing start with
  | nil => exact List.Pairwise.nil
  | cons width widths ih =>
    refine List.pairwise_cons.mpr ⟨fun span hspan => ?_, ih _⟩
    have hstart := le_start_of_mem_spans hspan
    show start + width < span.start
    omega

/-! ### Lines -/

/-- The number of characters of a line of columns with the given widths. -/
def lineWidth (widths : List Nat) : Nat :=
  widths.sum + 3 * (widths.length - 1)

theorem toList_padRight (width : Nat) (text : String) :
    (padRight width text).toList = text.toList ++ List.replicate (width - text.length) ' ' := by
  rw [padRight, String.toList_append, String.toList_ofList]

theorem length_padRight {width : Nat} {text : String} (h : text.length ≤ width) :
    (padRight width text).length = width := by
  rw [← String.length_toList, toList_padRight, List.length_append, List.length_replicate,
    String.length_toList]
  omega

theorem tableLine_singleton (width : Nat) (cell : String) :
    tableLine [width] [cell] = padRight width cell :=
  String.intercalate_singleton

theorem tableLine_cons_cons (width width' : Nat) (widths : List Nat) (cell cell' : String)
    (cells : List String) :
    tableLine (width :: width' :: widths) (cell :: cell' :: cells) =
      padRight width cell ++ " | " ++ tableLine (width' :: widths) (cell' :: cells) :=
  String.intercalate_cons_cons

/-- **A line of cells that fit is as long as its columns, and the bars between them.** -/
theorem length_tableLine {widths : List Nat} {cells : List String} (h : Fit widths cells) :
    (tableLine widths cells).length = lineWidth widths := by
  induction h with
  | nil => rfl
  | cons hcell hcells ih =>
    cases hcells with
    | nil =>
      rw [tableLine_singleton, length_padRight hcell]
      rfl
    | cons hnext hcells =>
      have hbar : " | ".length = 3 := rfl
      rw [tableLine_cons_cons, String.length_append, String.length_append, length_padRight hcell,
        ih, hbar]
      simp only [lineWidth, List.sum_cons, List.length_cons]
      omega

/-- What is padded to a width stands, where it starts, in a place of this width. -/
theorem holds_of_append {line text : String} {before after : List Char} {width : Nat}
    (hfits : text.length ≤ width)
    (hline : line.toList = before ++ ((padRight width text).toList ++ after)) :
    Span.Holds ⟨before.length, width⟩ line text := by
  have hlength : (padRight width text).toList.length = width :=
    String.length_toList.trans (length_padRight hfits)
  refine ⟨?_, hfits, ?_⟩
  · rw [← String.length_toList, hline, List.length_append, List.length_append, hlength,
      ← Nat.add_assoc]
    exact Nat.le_add_right _ _
  · rw [hline, List.drop_left' rfl, List.take_left' hlength, toList_padRight]

/-- Behind whatever a line begins with, cells that fit stand in the columns that start there. -/
theorem shows_of_append {line : String} {widths : List Nat} {cells : List String}
    (h : Fit widths cells) (before : List Char)
    (hline : line.toList = before ++ (tableLine widths cells).toList) :
    Shows (spans before.length widths) line cells := by
  induction h generalizing before with
  | nil => exact List.Forall₂.nil
  | @cons width cell widths cells hcell hcells ih =>
    cases hcells with
    | nil =>
      rw [tableLine_singleton, ← List.append_nil (padRight width cell).toList] at hline
      exact List.Forall₂.cons (holds_of_append hcell hline) List.Forall₂.nil
    | cons hnext hcells =>
      rw [tableLine_cons_cons, String.toList_append, String.toList_append, List.append_assoc]
        at hline
      refine List.Forall₂.cons (holds_of_append hcell hline) ?_
      -- The next column starts behind the cell and the bar.
      have hstart : (before ++ ((padRight width cell).toList ++ " | ".toList)).length =
          before.length + width + 3 := by
        rw [List.length_append, List.length_append, String.length_toList, length_padRight hcell,
          Nat.add_assoc]
        rfl
      rw [← hstart]
      refine ih _ ?_
      rw [hline, List.append_assoc, List.append_assoc]

/-- **Cells that fit stand in their columns.** -/
theorem shows_tableLine {widths : List Nat} {cells : List String} (h : Fit widths cells) :
    Shows (spans 0 widths) (tableLine widths cells) cells :=
  shows_of_append h [] rfl

theorem length_tableRule (widths : List Nat) : (tableRule widths).length = lineWidth widths := by
  rw [tableRule, String.length_ofList, List.length_replicate]
  rfl

/-! ### Widths -/

theorem foldl_max_le_iff {α : Type} {measure : α → Nat} {items : List α} {start bound : Nat} :
    items.foldl (fun width item => max width (measure item)) start ≤ bound ↔
      start ≤ bound ∧ ∀ item ∈ items, measure item ≤ bound := by
  induction items generalizing start with
  | nil => simp
  | cons item items ih => rw [List.foldl_cons, ih, Nat.max_le, List.forall_mem_cons, and_assoc]

theorem length_widths (names : List String) (rows : List (List String)) :
    (widths names rows).length = names.length := by
  rw [widths, List.length_map, List.length_zipIdx]

/-- **A column is as wide as the bytes of its name and the characters of its cells demand**, and no
wider. -/
theorem width_le_iff {names : List String} {rows : List (List String)} {i bound : Nat}
    (h : i < names.length) (hwidth : i < (widths names rows).length) :
    (widths names rows).get ⟨i, hwidth⟩ ≤ bound ↔
      (names.get ⟨i, h⟩).utf8ByteSize ≤ bound ∧
        ∀ row ∈ rows, ((row[i]?).getD "").length ≤ bound := by
  simp only [widths, List.get_eq_getElem, List.getElem_map, List.getElem_zipIdx, Nat.zero_add]
  exact foldl_max_le_iff

/-- **Every name and every cell fits its column.** -/
theorem fits_widths {names : List String} {rows : List (List String)}
    (h : ∀ row ∈ rows, row.length = names.length) :
    Fit (widths names rows) names ∧ ∀ row ∈ rows, Fit (widths names rows) row := by
  have hlength := length_widths names rows
  constructor
  · refine List.forall₂_iff_get.mpr ⟨hlength, fun i hwidth hname => ?_⟩
    have hbytes := ((width_le_iff hname hwidth).mp (Nat.le_refl _)).1
    exact (length_le_utf8ByteSize _).trans hbytes
  · intro row hrow
    refine List.forall₂_iff_get.mpr ⟨hlength.trans (h row hrow).symm, fun i hwidth hcell => ?_⟩
    have hcells := ((width_le_iff (hlength ▸ hwidth) hwidth).mp (Nat.le_refl _)).2 row hrow
    rwa [List.getElem?_eq_getElem hcell, Option.getD_some] at hcells

/-! ### Tables -/

/-- The lines of a table are aligned. There are places for its columns, one behind the other, in
which the header has the names, and each line below the rule has the cells of its row; and all lines
have as many characters. -/
structure IsAligned (places : List Span) (names : List String) (rows : List (List String))
    (header rule : String) (body : List String) : Prop where
  apart : places.Pairwise fun left right => left.start + left.width < right.start
  named : Shows places header names
  ruled : ∀ c ∈ rule.toList, c = '-'
  filled : List.Forall₂ (Shows places) body rows
  even : ∀ line ∈ rule :: body, line.length = header.length

/-- Lines are aligned that have been made with the widths of their columns. -/
theorem isAligned_lines {names : List String} {rows : List (List String)}
    (h : ∀ row ∈ rows, row.length = names.length) :
    let widths := widths names rows
    IsAligned (spans 0 widths) names rows (tableLine widths names) (tableRule widths)
      (rows.map (tableLine widths)) := by
  intro widths
  obtain ⟨hnames, hrows⟩ := fits_widths h
  refine ⟨pairwise_spans 0 widths, shows_tableLine hnames, fun c hc => ?_, ?_, ?_⟩
  · rw [tableRule, String.toList_ofList] at hc
    exact List.eq_of_mem_replicate hc
  · rw [List.forall₂_map_left_iff, List.forall₂_same]
    exact fun row hrow => shows_tableLine (hrows row hrow)
  · rw [length_tableLine hnames, List.forall_mem_cons, List.forall_mem_map]
    exact ⟨length_tableRule widths, fun row hrow => length_tableLine (hrows row hrow)⟩

/-- **Tables are aligned.** Whatever an answer with rows holds, its table is a header, a rule and a
line for each row, and these are aligned: the names of the columns and the cells of each row stand
uncut in the same places, and no line is longer or shorter than another. -/
theorem table_is_aligned {answer : Json} {rows : List Json}
    (hrows : (answer.member "result").items? = some rows) (hsome : rows ≠ []) :
    ∃ places header rule body,
      table answer =
        lines (header :: rule :: body ++ ["", toString rows.length ++ " row(s)"]) ∧
      IsAligned places (columnNames answer) (tableRows (columnNames answer) rows) header rule
        body := by
  have hcells : ∀ cells ∈ tableRows (columnNames answer) rows,
      cells.length = (columnNames answer).length := by
    rw [tableRows, List.forall_mem_map]
    exact fun row _ => List.length_map _
  refine ⟨_, _, _, _, ?_, isAligned_lines hcells⟩
  obtain ⟨row, others, rfl⟩ := List.exists_cons_of_ne_nil hsome
  rw [table, hrows]

/-- A name of two bytes, a cell of two characters with six bytes, a value that is no text, cells
that are not there, and a row that is no object. -/
theorem table_is_aligned_accents :
    let answer : Json := .object [("columns", .array [.string "é", .null, .string "seats"]),
      ("result", .array [.object [("é", .string "日本"), ("seats", .array [.integer 1, .null])],
        .object [("é", .string "x")], .integer 5])]
    let names := ["é", "seats"]
    let rows := [["日本", "[1,null]"], ["x", "-"], ["-", "-"]]
    table answer = "é  | seats   \n-------------\n日本 | [1,null]\nx  | -       \n-  | -       \n" ++
        "\n3 row(s)\n" ∧
      ∃ places header rule body,
        table answer = lines (header :: rule :: body ++ ["", "3 row(s)"]) ∧
        IsAligned places names rows header rule body := by
  intro answer names rows
  have hrows : (answer.member "result").items? = some _ := rfl
  exact ⟨by decide, table_is_aligned hrows (List.cons_ne_nil _ _)⟩

end Report

end Registrar
