import Registrar.CommandLine.Report
import Registrar.Proofs.Json.Parsing
import Registrar.Proofs.Number.Layout
import Registrar.Proofs.Text.Csv
import Registrar.Query.Export

/-!
# Two ways to comma-separated values

The service writes a result as comma-separated values, or as a JSON document. The command line
writes comma-separated values too, from the JSON document. Rows, columns, texts and cells that are
not there come out alike. Numbers need not: the service shows their plain texts, and in the document
a number is a whole number or has the text of JSON documents.

Which numbers are written alike is the whole matter. Whole numbers are, below the size from which on
the document does not show them as such; but in the document zero has no sign. Other numbers are,
unless they are so small that the document shows an exponent, or lie halfway between two shortest
decimals of which the lower one is even. When the document has gone through its text, these other
numbers must also have been read back as what they were.

## Main definitions

* `Binary64.isWrittenAlike` — whether a number has the same text in both.
* `Output.answer` — the document of a result, as a value.
* `Output.received` — the value that is read from the text of the document.

## Main results

* `FieldValue.display_eq_csvField_iff` — when a cell is written alike.
* `Output.parse?_compact_toJson` — what the text of the document is read as.
* `Output.toCsv_eq_csv_iff` — when the comma-separated values are the same.
-/

namespace Registrar

/-! ### Cells -/

/-- Whether a number has the same text in both: it is whole, below the bound and no negative zero;
or it is not whole, at least `0.00001` in size, and has one shortest decimal under both rules. By
`shortest_up_ne_even_iff` it has two exactly if it lies halfway between shortest decimals of which
the lower one is even. -/
def Binary64.isWrittenAlike (x : Binary64) : Bool :=
  if x.isWhole then
    decide (x.truncate.natAbs < FieldValue.wholeBound) && !(x.isZero && x.negative)
  else
    x.isFinite && decide (unitsPerOne ≤ x.units * tenPow 5) &&
      decide (x.shortest .up = x.shortest .even)

/-- A text that is the plain text of a number that is not whole, and the text of a number in JSON
documents, belongs to one number. -/
theorem Binary64.eq_of_plainText_eq_jsonText {x y : Binary64} (hx : x.isFinite = true)
    (hwhole : x.isWhole = false) (hy : y.isFinite = true) (h : x.plainText = y.jsonText) :
    x = y := by
  have hneg := exponent_neg_of_not_isWhole .up hx hwhole
  have hzero := isZero_eq_false_of_not_isWhole hx hwhole
  have hdecimal : x.plainDecimal =
      ⟨x.negative, (x.shortest .up).coefficient, (-(x.shortest .up).exponent).toNat⟩ :=
    if_neg (Int.not_le.mpr hneg)
  have hscale : x.plainDecimal.scale ≠ 0 := by
    rw [hdecimal]
    dsimp only
    omega
  have hexponent : -((-(x.shortest .up).exponent).toNat : Int) = (x.shortest .up).exponent := by
    omega
  have hplain := Json.isDecimalText_places hscale
  rw [← plainText_eq hx, h, hdecimal] at hplain
  obtain ⟨hsign, hvalue⟩ := hplain.unique y.isDecimalText_jsonText
  have hy' := ofRatio_jsonDecimal hy
  rw [← hsign, ← hvalue] at hy'
  dsimp only at hy'
  rw [hexponent] at hy'
  rw [← hy']
  exact (ofRatio_of_contains hx (powerOfTen_pos _).2 (shortest_covers .up hx hzero)).symm

namespace FieldValue

theorem csvField_integer (n : Int) : Report.csvField (.integer n) = toString n :=
  String.ofList_toList

theorem csvField_real {x : Binary64} (hfinite : x.isFinite = true) :
    Report.csvField (.real x) = x.jsonText := by
  have htext : Report.csvField (.real x) =
      String.ofList (if x.isFinite then x.jsonText else "null").toList := rfl
  rw [htext, hfinite, if_pos rfl, String.ofList_toList]

theorem plainText_eq_csvField_iff (x : Binary64) :
    x.plainText = Report.csvField (number x).toJson ↔ x.isWrittenAlike = true := by
  rw [toJson, Binary64.isWrittenAlike]
  cases hwhole : x.isWhole with
  | true =>
    have hfinite := Binary64.isFinite_of_isWhole hwhole
    by_cases hlt : x.truncate.natAbs < wholeBound
    · rw [decide_eq_true hlt, Bool.and_self, if_pos rfl, if_pos rfl, csvField_integer,
        Binary64.plainText_eq_toString_iff hwhole hlt, Bool.true_and, Bool.not_eq_true',
        Bool.and_eq_false_iff]
      cases x.isZero <;> cases x.negative <;> decide
    · rw [decide_eq_false hlt, Bool.and_false, if_neg Bool.false_ne_true, Json.ofNumber, hfinite,
        if_pos rfl, if_pos rfl, csvField_real hfinite, Bool.false_and]
      exact iff_of_false (Binary64.plainText_ne_jsonText_of_isWhole hwhole _) Bool.false_ne_true
  | false =>
    rw [Bool.false_and, if_neg Bool.false_ne_true, if_neg Bool.false_ne_true, Json.ofNumber]
    cases hfinite : x.isFinite with
    | true =>
      rw [if_pos rfl, csvField_real hfinite, Binary64.plainText_eq_jsonText_iff hfinite hwhole]
      simp
    | false =>
      rw [if_neg Bool.false_ne_true, Bool.false_and, Bool.false_and]
      exact iff_of_false (x.plainText_ne (by decide) (by decide)) Bool.false_ne_true

/-- **A cell is written alike exactly if it is a text, or a number that is.** -/
theorem display_eq_csvField_iff (value : FieldValue) :
    value.display = Report.csvField value.toJson ↔
      ∀ x, value = number x → x.isWrittenAlike = true := by
  cases value with
  | number x =>
    refine (plainText_eq_csvField_iff x).trans ⟨?_, fun h => h x rfl⟩
    rintro h _ ⟨⟩
    exact h
  | text t => exact iff_of_true rfl nofun

theorem writable_toJson (depth : Nat) (value : FieldValue) : Json.Writable depth value.toJson := by
  cases value with
  | number x =>
    rw [toJson]
    split
    · next hwhole =>
      have hlt : x.truncate.natAbs < twoPow 53 := by
        rw [Bool.and_eq_true] at hwhole
        exact of_decide_eq_true hwhole.2
      have h53 : twoPow 53 = 9007199254740992 := rfl
      have h63 : twoPow 63 = 9223372036854775808 := rfl
      have h64 : twoPow 64 = 18446744073709551616 := rfl
      exact .integer (by omega) (by omega)
    · rw [Json.ofNumber]
      split
      · next hfinite => exact .real hfinite
      · exact .null
  | text t => exact .string t

/-- **What is read of a number has the number's plain text only if it is the number**, unless the
number is whole and shown as such. -/
theorem plainText_eq_csvField_reread_iff (x : Binary64) :
    x.plainText = Report.csvField (number x).toJson.reread ↔
      x.isWrittenAlike = true ∧ (x.isWhole = false → x.reread = x) := by
  rw [← plainText_eq_csvField_iff, toJson]
  cases hwhole : x.isWhole with
  | true =>
    by_cases hlt : x.truncate.natAbs < wholeBound
    · rw [decide_eq_true hlt, Bool.and_self, if_pos rfl, Json.reread]
      exact (and_iff_left (by simp)).symm
    · have hfinite := Binary64.isFinite_of_isWhole hwhole
      rw [decide_eq_false hlt, Bool.and_false, if_neg Bool.false_ne_true, Json.ofNumber, hfinite,
        if_pos rfl, Json.reread, csvField_real hfinite,
        csvField_real (Binary64.isFinite_reread hfinite)]
      exact iff_of_false (Binary64.plainText_ne_jsonText_of_isWhole hwhole _)
        fun h => Binary64.plainText_ne_jsonText_of_isWhole hwhole _ h.1
  | false =>
    rw [Bool.false_and, if_neg Bool.false_ne_true, Json.ofNumber]
    cases hfinite : x.isFinite with
    | true =>
      rw [if_pos rfl, Json.reread, csvField_real hfinite,
        csvField_real (Binary64.isFinite_reread hfinite)]
      constructor
      · intro htext
        have hread := Binary64.eq_of_plainText_eq_jsonText hfinite hwhole
          (Binary64.isFinite_reread hfinite) htext
        exact ⟨htext.trans (congrArg Binary64.jsonText hread.symm), fun _ => hread.symm⟩
      · rintro ⟨htext, hread⟩
        exact htext.trans (congrArg Binary64.jsonText (hread rfl).symm)
    | false =>
      rw [if_neg Bool.false_ne_true, Json.reread]
      exact iff_of_false (x.plainText_ne (by decide) (by decide))
        fun h => x.plainText_ne (by decide) (by decide) h.1

theorem canonical_toJson (value : FieldValue) : value.toJson.canonical = value.toJson := by
  cases value with
  | number x =>
    rw [toJson]
    split
    · rfl
    · rw [Json.ofNumber]
      split <;> rfl
  | text t => rfl

theorem canonical_reread_toJson (value : FieldValue) :
    value.toJson.reread.canonical = value.toJson.reread := by
  cases value with
  | number x =>
    rw [toJson]
    split
    · rfl
    · rw [Json.ofNumber]
      split <;> rfl
  | text t => rfl

end FieldValue

/-! ### Answers -/

namespace Json

/-- A member of an object whose members are put in order is the member of the object. -/
theorem member_canonical_object {members : List (String × Json)}
    (hnodup : (members.map Prod.fst).Nodup) (name : String) :
    (canonical (object members)).member name = ((object members).member name).canonical := by
  have hnames : (canonicalMembers members).map Prod.fst = members.map Prod.fst := by
    rw [canonicalMembers_eq_map, List.map_map]
    rfl
  have hlookup : (canonicalMembers members).lookup name = (members.lookup name).map canonical := by
    rw [canonicalMembers_eq_map]
    exact lookup_mapValues (fun _ value => value.canonical) members name
  rw [canonical, member, member?, lookup_sortMembers (hnames ▸ hnodup), hlookup, member, member?]
  cases members.lookup name <;> rfl

theorem canonical_ofStrings (texts : List String) :
    (ofStrings texts).canonical = ofStrings texts := by
  rw [ofStrings, canonical, canonicalItems_eq_map, List.map_map]
  rfl

end Json

/-- A row as a JSON object, with its cells written in some way. -/
def Row.document (cell : FieldValue → Json) (row : Row) : Json :=
  .object (row.cells.map fun named => (named.1, cell named.2))

/-- A cell of a row, as it stands in the document. -/
theorem Row.member_document {cell : FieldValue → Json}
    (hcell : ∀ value, (cell value).canonical = cell value) (row : Row) (column : String) :
    (row.document cell).canonical.member column = ((row.get? column).map cell).getD .null := by
  have hnames : (row.cells.map fun named => (named.1, cell named.2)).map Prod.fst =
      row.columns := by
    rw [List.map_map]
    rfl
  have hlookup : (row.cells.map fun named => (named.1, cell named.2)).lookup column =
      (row.get? column).map cell :=
    Json.lookup_mapValues (fun _ value => cell value) row.cells column
  have hnodup : row.columns.Nodup := row.nodup
  rw [document, Json.member_canonical_object (hnames ▸ hnodup), Json.member, Json.member?, hlookup]
  cases row.get? column with
  | none => rfl
  | some value => exact hcell value

/-- Two sheets with the same columns and rows have the same text exactly if they have the same
cells. -/
theorem Csv.encode_sheet_eq_iff {α : Type} {columns : List String} {rows : List α}
    {cell cell' : α → String → String} :
    encode (sheet columns rows cell) = encode (sheet columns rows cell') ↔
      ∀ row ∈ rows, ∀ column ∈ columns, cell row column = cell' row column := by
  constructor
  · intro htext row hrow column hcolumn
    have hsome : columns ≠ [] := List.ne_nil_of_mem hcolumn
    have hsheet : sheet columns rows cell = sheet columns rows cell' := by
      have hread := (holdsSheet_encode rows cell hsome).readBack
      rw [htext, (holdsSheet_encode rows cell' hsome).readBack] at hread
      exact (Option.some.inj hread).symm
    have hrows := (List.cons.inj hsheet).2
    exact List.map_inj_left.mp (List.map_inj_left.mp hrows row hrow) column hcolumn
  · intro hcells
    rw [sheet, sheet]
    refine congrArg (fun rows => encode (columns :: rows)) (List.map_congr_left fun row hrow => ?_)
    exact List.map_congr_left (hcells row hrow)

namespace Output

/-- The document of a result, with the cells written in some way. -/
def document (cell : FieldValue → Json) (output : Output) (elapsed : Nat) : Json :=
  .object [("result", .array (output.rows.map (Row.document cell))),
    ("columns", .ofStrings output.columns), ("meta", .object [
      ("execution_time_ms", .ofNat elapsed), ("row_count", .ofNat output.rows.length),
      ("records_scanned", .ofNat output.recordsScanned)])]

/-- The document of a result, as a value. -/
def answer (output : Output) (elapsed : Nat) : Json :=
  (output.toJson elapsed).canonical

/-- The value that is read from the text of the document. -/
def received (output : Output) (elapsed : Nat) : Json :=
  (output.toJson elapsed).reread.canonical

theorem toJson_eq (output : Output) (elapsed : Nat) :
    output.toJson elapsed = output.document FieldValue.toJson elapsed := rfl

theorem reread_toJson (output : Output) (elapsed : Nat) :
    (output.toJson elapsed).reread =
      output.document (fun value => value.toJson.reread) elapsed := by
  have hcolumns : (Json.ofStrings output.columns).reread = .ofStrings output.columns := by
    rw [Json.ofStrings, Json.reread, Json.rereadItems_eq_map, List.map_map]
    rfl
  have hrow (row : Row) : row.toJson.reread =
      row.document fun value => value.toJson.reread := by
    rw [Row.toJson, Json.reread, Json.rereadMembers_eq_map, List.map_map]
    rfl
  have hrows : (Json.array (output.rows.map Row.toJson)).reread =
      .array (output.rows.map (Row.document fun value => value.toJson.reread)) := by
    rw [Json.reread, Json.rereadItems_eq_map, List.map_map]
    exact congrArg Json.array (List.map_congr_left fun row _ => hrow row)
  simp only [toJson, document, Json.reread, Json.rereadMembers, hcolumns, ← hrows]
  rfl

section

variable {cell : FieldValue → Json} (output : Output) (elapsed : Nat)

theorem member_document (name : String) : (output.document cell elapsed).canonical.member name =
    ((output.document cell elapsed).member name).canonical := by
  have hnames : ["result", "columns", "meta"].Nodup := by decide
  rw [document]
  refine Json.member_canonical_object ?_ name
  exact hnames

theorem columnNames_document :
    Report.columnNames (output.document cell elapsed).canonical = output.columns := by
  have hcolumns : (output.document cell elapsed).member "columns" = .ofStrings output.columns := rfl
  rw [Report.columnNames, member_document, hcolumns, Json.canonical_ofStrings, Report.texts]
  exact List.filterMap_map.trans List.filterMap_some

theorem result_document :
    ((output.document cell elapsed).canonical.member "result").items?.getD [] =
      output.rows.map fun row => (row.document cell).canonical := by
  have hresult : (output.document cell elapsed).member "result" =
      .array (output.rows.map (Row.document cell)) := rfl
  rw [member_document, hresult, Json.canonical, Json.canonicalItems_eq_map, List.map_map]
  rfl

/-- What the command line writes for a document. -/
theorem csv_document : Report.csv (output.document cell elapsed).canonical =
    Csv.encode (Csv.sheet output.columns output.rows fun row column =>
      Report.csvField ((row.document cell).canonical.member column)) := by
  rw [Report.csv, columnNames_document, result_document, List.map_map]
  rfl

/-- Both write the same exactly if they write the same for every cell that is shown. -/
theorem toCsv_eq_csv_document_iff (hcell : ∀ value, (cell value).canonical = cell value) :
    output.toCsv = Report.csv (output.document cell elapsed).canonical ↔
      ∀ row ∈ output.rows, ∀ column ∈ output.columns, ∀ value,
        row.get? column = some value → value.display = Report.csvField (cell value) := by
  rw [toCsv_eq, csv_document, Csv.encode_sheet_eq_iff]
  refine forall₂_congr fun row _ => forall₂_congr fun column _ => ?_
  rw [Row.member_document hcell, cellText]
  cases row.get? column with
  | none => exact iff_of_true rfl (by simp)
  | some value => simp

end

/-- A number that stands in a row and is shown in one of the columns. -/
def Shows (output : Output) (x : Binary64) : Prop :=
  ∃ row ∈ output.rows, ∃ column ∈ output.columns, row.get? column = some (.number x)

/-- **What is read from the text of the document.** -/
theorem parse?_compact_toJson {output : Output} {elapsed : Nat} (helapsed : elapsed < twoPow 64)
    (hrows : output.rows.length < twoPow 64) (hscanned : output.recordsScanned < twoPow 64) :
    Json.parse? (output.toJson elapsed).compact = some (output.received elapsed) := by
  have hcount {depth n : Nat} (hn : n < twoPow 64) : Json.Writable depth (.ofNat n) := by
    have h63 : (0 : Int) ≤ twoPow 63 := Int.natCast_nonneg _
    exact .integer (by omega) (Int.ofNat_lt.mpr hn)
  have hrow (depth : Nat) (row : Row) : Json.Writable (depth + 1) row.toJson := by
    refine .object fun member hmember => ?_
    obtain ⟨cell, -, rfl⟩ := List.mem_map.mp hmember
    exact cell.2.writable_toJson depth
  have hwritable : Json.Writable Json.nestingLimit (output.toJson elapsed) := by
    refine .object fun member hmember => ?_
    simp only [List.mem_cons, List.not_mem_nil, or_false] at hmember
    obtain rfl | rfl | rfl := hmember
    · refine .array fun item hitem => ?_
      obtain ⟨row, -, rfl⟩ := List.mem_map.mp hitem
      exact hrow 124 row
    · refine .array fun item hitem => ?_
      obtain ⟨text, -, rfl⟩ := List.mem_map.mp hitem
      exact .string text
    · refine .object fun count hcount' => ?_
      simp only [List.mem_cons, List.not_mem_nil, or_false] at hcount'
      obtain rfl | rfl | rfl := hcount'
      · exact hcount helapsed
      · exact hcount hrows
      · exact hcount hscanned
  rw [Json.parse?, Json.parseMembers?_compact hwritable]
  rfl

/-- What is the case for all cells that are shown and depends on numbers only. -/
theorem forall_cells_iff {output : Output} {p : FieldValue → Prop} {q : Binary64 → Prop}
    (htext : ∀ t, p (.text t)) (hnumber : ∀ x, p (.number x) ↔ q x) :
    (∀ row ∈ output.rows, ∀ column ∈ output.columns, ∀ value,
      row.get? column = some value → p value) ↔ ∀ x, output.Shows x → q x := by
  constructor
  · rintro h x ⟨row, hrow, column, hcolumn, hx⟩
    exact (hnumber x).mp (h row hrow column hcolumn _ hx)
  · intro h row hrow column hcolumn value hvalue
    cases value with
    | text t => exact htext t
    | number x => exact (hnumber x).mpr (h x ⟨row, hrow, column, hcolumn, hvalue⟩)

/-- **The two exports of a result agree exactly if every number that they show is written alike.**
Names of columns, the order of rows and columns, texts and cells that are not there make no
difference. If the document is first read back from its text, they agree exactly if, in addition,
every number that is not whole is read back as what it was. -/
theorem toCsv_eq_csv_iff (output : Output) (elapsed : Nat) :
    (output.toCsv = Report.csv (output.answer elapsed) ↔
      ∀ x, output.Shows x → x.isWrittenAlike = true) ∧
    (output.toCsv = Report.csv (output.received elapsed) ↔
      ∀ x, output.Shows x →
        x.isWrittenAlike = true ∧ (x.isWhole = false → x.reread = x)) := by
  constructor
  · rw [answer, toJson_eq, toCsv_eq_csv_document_iff output elapsed FieldValue.canonical_toJson]
    exact forall_cells_iff (fun _ => rfl) FieldValue.plainText_eq_csvField_iff
  · rw [received, reread_toJson,
      toCsv_eq_csv_document_iff output elapsed FieldValue.canonical_reread_toJson]
    exact forall_cells_iff (fun _ => rfl) FieldValue.plainText_eq_csvField_reread_iff

/-- A row of texts and numbers that are written alike, and a row without cells. -/
example :
    let output : Output := ⟨["s_dept", "avg", "count"],
      [Row.empty.insertAll [("count", .number ⟨0x4008000000000000⟩),
        ("avg", .number ⟨0x4058500000000000⟩), ("s_dept", .text "cpsc, \"x\"")], Row.empty], 3⟩
    output.toCsv = "s_dept,avg,count\n\"cpsc, \"\"x\"\"\",97.25,3\n,,\n" ∧
      output.toCsv = Report.csv (output.received 5) := by
  decide +kernel

/-- **Not all results are exported alike.** A small number, a large one, a zero with a sign and a
number halfway between two shortest decimals have other texts in the document. -/
theorem toCsv_ne_csv :
    let row (bits : UInt64) : Row := Row.empty.insert "x" (.number ⟨bits⟩)
    let output : Output := ⟨["x"], [row 0x3e7ad7f29abcaf48, row 0x4340000000000000,
      row 0x8000000000000000, row 0x4270000000000080], 4⟩
    (∀ row ∈ output.rows, ∀ column ∈ output.columns,
        ∀ x ∈ (row.get? column).bind FieldValue.number?, x.isFinite = true) ∧
      output.toCsv = "x\n0.0000001\n9007199254740992\n-0\n1099511627776.0313\n" ∧
      Report.csv (output.answer 0) = "x\n1e-7\n9007199254740992.0\n0\n1099511627776.0312\n" := by
  decide +kernel

end Output

end Registrar
