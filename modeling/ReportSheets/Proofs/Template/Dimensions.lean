import ReportSheets.Proofs.Template.Sheets
import ReportSheets.Proofs.Workbook.Layouts

namespace ReportSheets

namespace Xml

def Counts (name : String) (content : List Char) (n : Nat) : Prop :=
  ∃ text, Carries name content text ∧ Text.readCount? Package.maxCount text = some n

def Amounts (name : String) (content : List Char) (n : Binary64) : Prop :=
  ∃ text, Carries name content text ∧ Binary64.read? text = some n

end Xml

namespace Package

open Xml

inductive Describes (content : List Char) : Dimension → Prop
  | column {c : ColumnWidth} (tag : elementName content = "col".toList)
      (first : Counts "min" content (c.first + 1)) (last : Counts "max" content (c.last + 1))
      (width : Amounts "width" content c.width) (ordered : c.first ≤ c.last)
      (inSheet : c.last ≤ CellAddress.maxCol) : Describes content (.column c)
  | row {row : Nat} {height : Binary64} (tag : elementName content = "row".toList)
      (custom : Carries "customHeight" content ['1'] ∨
        Carries "customHeight" content "true".toList)
      (number : Counts "r" content (row + 1)) (points : Amounts "ht" content height) :
      Describes content (.row row height)

variable {name : String} {content : List Char} {found : Option (List Char)}

theorem numberOf?_eq_some_iff (read : attribute? name content = .ok found) {n : Nat} :
    numberOf? found = some n ↔ Counts name content n := by
  simp only [numberOf?, Option.bind_eq_some_iff, Counts, ← attribute?_eq_some_iff, read,
    Except.ok.injEq]

theorem realOf?_eq_some_iff (read : attribute? name content = .ok found) {n : Binary64} :
    realOf? found = some n ↔ Amounts name content n := by
  simp only [realOf?, Option.bind_eq_some_iff, Amounts, ← attribute?_eq_some_iff, read,
    Except.ok.injEq]

theorem columnWidth?_eq_some_iff {c : ColumnWidth} :
    columnWidth? content = .ok (some c) ↔
      Counts "min" content (c.first + 1) ∧ Counts "max" content (c.last + 1) ∧
        Amounts "width" content c.width ∧ c.first ≤ c.last ∧ c.last ≤ CellAddress.maxCol := by
  constructor
  · intro done
    obtain ⟨first, low, done⟩ := of_bind_ok done
    obtain ⟨last, high, done⟩ := of_bind_ok done
    obtain ⟨width, wide, done⟩ := of_bind_ok done
    rw [← numberOf?_eq_some_iff low, ← numberOf?_eq_some_iff high, ← realOf?_eq_some_iff wide]
    split at done
    · rename_i first last width given given' given''
      split at done
      · cases done
      · rename_i within
        cases done
        rw [given, given', given'']
        simp only [not_or] at within
        refine ⟨congrArg some ?_, congrArg some ?_, rfl, ?_, ?_⟩ <;> dsimp only <;> omega
    · cases done
  · rintro ⟨⟨low, carriesLow, first⟩, ⟨high, carriesHigh, last⟩, ⟨wide, carriesWide, width⟩,
      ordered, inSheet⟩
    have within : ¬ (c.first + 1 = 0 ∨ c.last + 1 < c.first + 1 ∨
        CellAddress.maxCol + 1 < c.last + 1) := by omega
    simp only [columnWidth?, attribute?_eq_some_iff.mpr carriesLow,
      attribute?_eq_some_iff.mpr carriesHigh, attribute?_eq_some_iff.mpr carriesWide, bind,
      Except.bind, numberOf?, realOf?, Option.bind_some, first, last, width, if_neg within]
    rfl

theorem isTrue_iff (read : attribute? name content = .ok found) :
    isTrue found = true ↔ Carries name content ['1'] ∨ Carries name content "true".toList := by
  simp only [isTrue, Bool.or_eq_true, decide_eq_true_eq, ← attribute?_eq_some_iff, read,
    Except.ok.injEq]

theorem rowHeight?_eq_some_iff {row : Nat} {height : Binary64} :
    rowHeight? content = .ok (some (row, height)) ↔
      (Carries "customHeight" content ['1'] ∨ Carries "customHeight" content "true".toList) ∧
        Counts "r" content (row + 1) ∧ Amounts "ht" content height := by
  constructor
  · intro done
    obtain ⟨custom, marked, done⟩ := of_bind_ok done
    rw [← isTrue_iff marked]
    split at done
    · rename_i own
      obtain ⟨number, counted, done⟩ := of_bind_ok done
      obtain ⟨points, measured, done⟩ := of_bind_ok done
      rw [← numberOf?_eq_some_iff counted, ← realOf?_eq_some_iff measured]
      split at done
      · rename_i given given'
        cases done
        exact ⟨own, given, given'⟩
      · cases done
    · cases done
  · rintro ⟨own, ⟨number, carriesNumber, counted⟩, ⟨points, carriesPoints, measured⟩⟩
    have custom : ∃ found, attribute? "customHeight" content = .ok found ∧ isTrue found = true := by
      rcases own with carries | carries
      · exact ⟨_, attribute?_eq_some_iff.mpr carries, by decide⟩
      · exact ⟨_, attribute?_eq_some_iff.mpr carries, by decide⟩
    obtain ⟨found, marked, own⟩ := custom
    simp only [rowHeight?, marked, own, attribute?_eq_some_iff.mpr carriesNumber,
      attribute?_eq_some_iff.mpr carriesPoints, bind, Except.bind, numberOf?, realOf?,
      Option.bind_some, counted, measured]
    rfl

theorem dimension?_eq_some_iff {dimension : Dimension} :
    dimension? content = .ok (some dimension) ↔ Describes content dimension := by
  have apart : "col".toList ≠ "row".toList := by decide
  by_cases col : elementName content = "col".toList
  · rw [dimension?, if_pos col, map_eq_ok_iff]
    constructor
    · rintro ⟨found, done, made⟩
      obtain ⟨c, rfl, rfl⟩ := Option.map_eq_some_iff.mp made
      obtain ⟨first, last, width, ordered, inSheet⟩ := columnWidth?_eq_some_iff.1 done
      exact .column col first last width ordered inSheet
    · intro describes
      cases describes with
      | column tag first last width ordered inSheet =>
        exact ⟨_, columnWidth?_eq_some_iff.2 ⟨first, last, width, ordered, inSheet⟩, rfl⟩
      | row tag => exact absurd (col.symm.trans tag) apart
  · by_cases row : elementName content = "row".toList
    · rw [dimension?, if_neg col, if_pos row, map_eq_ok_iff]
      constructor
      · rintro ⟨found, done, made⟩
        obtain ⟨⟨number, height⟩, rfl, rfl⟩ := Option.map_eq_some_iff.mp made
        obtain ⟨custom, counted, points⟩ := rowHeight?_eq_some_iff.1 done
        exact .row row custom counted points
      · intro describes
        cases describes with
        | column tag => exact absurd tag col
        | row tag custom number points =>
          exact ⟨_, rowHeight?_eq_some_iff.2 ⟨custom, number, points⟩, rfl⟩
    · rw [dimension?, if_neg col, if_neg row]
      constructor
      · intro nothing
        cases nothing
      · intro describes
        cases describes with
        | column tag => exact absurd tag col
        | row tag => exact absurd tag row

theorem describes_unique {dimension other : Dimension} (describes : Describes content dimension)
    (again : Describes content other) : dimension = other := by
  rw [← dimension?_eq_some_iff] at describes again
  rw [describes] at again
  cases again
  rfl

theorem row_unique {e other : Nat × Binary64} (describes : Describes content (.row e.1 e.2))
    (again : Describes content (.row other.1 other.2)) : e = other := by
  have same := describes_unique describes again
  rw [Dimension.row.injEq] at same
  exact Prod.ext same.1 same.2

theorem lt_maxCount_of_describes {row : Nat} {height : Binary64}
    (describes : Describes content (.row row height)) : row < maxCount := by
  cases describes with
  | row tag custom number points =>
    obtain ⟨text, -, counted⟩ := number
    obtain ⟨-, within⟩ := Option.filter_eq_some_iff.mp counted
    exact of_decide_eq_true within

/-- The columns are those of the tags in document order, and a row has the height of the last tag
that gives it one. -/
structure Described (tags : List (List Char)) (layout : Layout) : Prop where
  columns : Gathered (fun content c => Describes content (.column c)) tags layout.columns
  height : ∀ {row height}, layout.rowHeights.get? row = some height ↔
    ∃ before content after, tags = before ++ content :: after ∧
      Describes content (.row row height) ∧
      ∀ later ∈ after, ∀ other, ¬ Describes later (.row row other)

variable {tags : List (List Char)} {found : List (Option Dimension)}

theorem gathered_columns
    (each : List.Forall₂ (fun content found => dimension? content = .ok found) tags found) :
    Gathered (fun content c => Describes content (.column c)) tags
      (layoutOf (found.filterMap id)).columns := by
  refine (Gathered.of_forall₂ each).congr fun content c => ?_
  constructor
  · rintro ⟨dimension, done, made⟩
    cases dimension with
    | column width =>
      cases made
      exact dimension?_eq_some_iff.1 done
    | row row height => cases made
  · intro describes
    exact ⟨_, dimension?_eq_some_iff.2 describes, rfl⟩

theorem exists_gathered_rows
    (each : List.Forall₂ (fun content found => dimension? content = .ok found) tags found) :
    ∃ heights, (layoutOf (found.filterMap id)).rowHeights = .ofList heights ∧
      Gathered (fun content (e : Nat × Binary64) => Describes content (.row e.1 e.2)) tags
        heights := by
  refine ⟨_, rfl, (Gathered.of_forall₂ each).congr fun content e => ?_⟩
  constructor
  · rintro ⟨dimension, done, made⟩
    cases dimension with
    | column width => cases made
    | row row height =>
      cases made
      exact dimension?_eq_some_iff.1 done
  · intro describes
    exact ⟨_, dimension?_eq_some_iff.2 describes, rfl⟩

variable {worksheet : String} {layout : Layout}

theorem described_of_sheetDimensions (done : sheetDimensions worksheet = .ok layout) :
    Described (openings worksheet.toList).1 layout := by
  unfold sheetDimensions at done
  generalize openings worksheet.toList = opened at done ⊢
  obtain ⟨tags, broken⟩ := opened
  obtain ⟨found, each, done⟩ := of_bind_ok done
  cases broken with
  | true => cases done
  | false =>
    cases done
    have each := mapM_eq_ok_iff.mp each
    refine ⟨gathered_columns each, ?_⟩
    intro row height
    obtain ⟨heights, ofList, gathered⟩ := exists_gathered_rows each
    rw [ofList, SortedMap.get?_ofList_eq_some_iff]
    constructor
    · rintro ⟨before, after, rfl, last⟩
      obtain ⟨front, content, back, split, describes, later⟩ := gathered.exists_split
      refine ⟨front, content, back, split, describes, ?_⟩
      intro tag among other again
      have listed : (row, other) ∈ after := later.mem_of_gives row_unique among again
      exact last _ listed rfl
    · rintro ⟨front, content, back, rfl, describes, last⟩
      have given : Describes content (.row (row, height).1 (row, height).2) := describes
      obtain ⟨before, after, split, later⟩ := gathered.split_at_item row_unique given
      refine ⟨before, after, split, ?_⟩
      rintro e among rfl
      obtain ⟨tag, member, again⟩ := later.exists_of_mem among
      exact last tag member e.2 again

def RowsInSheet (worksheet : String) : Prop :=
  ∀ content ∈ (openings worksheet.toList).1, ∀ row height,
    Describes content (.row row height) → row ≤ CellAddress.maxRow

namespace Described

theorem inSheet (described : Described tags layout) {c : ColumnWidth}
    (member : c ∈ layout.columns) :
    c.first ≤ c.last ∧ c.last ≤ CellAddress.maxCol := by
  obtain ⟨content, -, describes⟩ := described.columns.exists_of_mem member
  cases describes with
  | column tag first last width ordered inSheet => exact ⟨ordered, inSheet⟩

theorem exists_tag (described : Described tags layout) {e : Nat × Binary64}
    (member : e ∈ layout.rowHeights.entries) :
    ∃ content ∈ tags, Describes content (.row e.1 e.2) := by
  obtain ⟨before, content, after, rfl, describes, -⟩ :=
    described.height.mp (SortedMap.mem_entries_iff.mp member)
  exact ⟨content, by simp, describes⟩

theorem exists_height (described : Described tags layout) {content : List Char} {row : Nat}
    {height : Binary64} (member : content ∈ tags)
    (describes : Describes content (.row row height)) :
    ∃ last, (row, last) ∈ layout.rowHeights.entries := by
  have told : ∃ tag ∈ tags, ∃ height, Describes tag (.row row height) :=
    ⟨content, member, height, describes⟩
  obtain ⟨before, tag, after, split, ⟨last, describes⟩, later⟩ := exists_last told
  refine ⟨last, SortedMap.mem_entries_iff.mpr (described.height.mpr ?_)⟩
  refine ⟨before, tag, after, split, describes, ?_⟩
  intro tag among other again
  exact later tag among ⟨other, again⟩

end Described

/-- What holds of the widths and heights that are read from a worksheet part: columns lie in the
sheet, and rows are only bounded by what a count can be. -/
structure LaidOutBy (worksheet : String) (layout : Layout) : Prop where
  described : Described (openings worksheet.toList).1 layout
  columns : ∀ c ∈ layout.columns, c.first ≤ c.last ∧ c.last ≤ CellAddress.maxCol
  rows : ∀ e ∈ layout.rowHeights.entries, e.1 < maxCount
  rowsInSheet : (∀ e ∈ layout.rowHeights.entries, e.1 ≤ CellAddress.maxRow) ↔ RowsInSheet worksheet
  checkColumns : Layout.checkColumns layout.columns = .ok ()
  checkRows : Layout.checkRows layout.rowHeights.entries = .ok () ↔ RowsInSheet worksheet

theorem laidOutBy_of_sheetDimensions {worksheet : String}
    (done : sheetDimensions worksheet = .ok layout) : LaidOutBy worksheet layout := by
  have described := described_of_sheetDimensions done
  have columns : ∀ c ∈ layout.columns, c.first ≤ c.last ∧ c.last ≤ CellAddress.maxCol :=
    fun c => described.inSheet
  have inSheet : (∀ e ∈ layout.rowHeights.entries, e.1 ≤ CellAddress.maxRow) ↔
      RowsInSheet worksheet := by
    constructor
    · intro within content member row height describes
      obtain ⟨last, listed⟩ := described.exists_height member describes
      exact within _ listed
    · intro within e member
      obtain ⟨content, among, describes⟩ := described.exists_tag member
      exact within content among e.1 e.2 describes
  refine ⟨described, columns, ?_, inSheet, Layout.checkColumns_eq_ok_iff.mpr columns,
    Layout.checkRows_eq_ok_iff.trans inSheet⟩
  intro e member
  obtain ⟨content, -, describes⟩ := described.exists_tag member
  exact lt_maxCount_of_describes describes

/-- The sheets of a package are never refused for their columns, and never for their rows either
unless a part gives a height to a row beyond the sheet. -/
theorem layouts_of_parts {worksheet : String} {layout : Layout}
    (read : sheetDimensions worksheet = .ok layout) :
    LaidOutBy worksheet layout ∧
    ∀ {package : Package} {path wb}, package.workbook path = .ok wb → ∀ sheet ∈ wb.sheets,
      Layout.checkColumns sheet.layout.columns = .ok () ∧
      ((∀ part text, package.readPart? part = .ok (some text) → RowsInSheet text) →
        Layout.checkRows sheet.layout.rowHeights.entries = .ok ()) := by
  refine ⟨laidOutBy_of_sheetDimensions read, ?_⟩
  intro package path wb imported sheet member
  obtain ⟨outline, layouts, -, done, read⟩ := exists_of_workbook imported
  obtain ⟨name, given, dimensions, found, rfl, listed⟩ :=
    Template.exists_of_mem_sheetsOf read member
  obtain ⟨-, columns, heights⟩ := Template.bare_of_sheetOf found
  cases dimensions with
  | none =>
    show Layout.checkColumns given.layout.columns = .ok () ∧
      (_ → Layout.checkRows given.layout.rowHeights.entries = .ok ())
    rw [columns, heights]
    exact ⟨rfl, fun _ => rfl⟩
  | some layout =>
    obtain ⟨part, text, present, given⟩ := exists_of_mem_dimensions done (listed layout rfl)
    have laidOut := laidOutBy_of_sheetDimensions given
    exact ⟨laidOut.checkColumns, fun within => laidOut.checkRows.mpr (within part text present)⟩

def soleSheet : String := "<workbook><sheet name='S' r:id='a'/></workbook>"

def soleRelation : String :=
  "<Relationships><Relationship Id='a' Target='worksheets/a'/></Relationships>"

def sole (worksheet : String) : Package :=
  ofTexts [(workbookPart, soleSheet), (relationshipsPart, soleRelation),
    ("xl/worksheets/a", worksheet)]

def corner : String :=
  "<cols><col min='1' max='16384' width='3'/></cols>" ++
    "<sheetData><row r='1048576' ht='30' customHeight='1'/></sheetData>"

theorem layouts_of_parts_of_corner :
    ∃ layout wb, sheetDimensions corner = .ok layout ∧ LaidOutBy corner layout ∧
      (sole corner).workbook "t.xlsx" = .ok wb ∧ wb.sheets.map (·.layout) = [layout] ∧
      ∀ sheet ∈ wb.sheets, Layout.checkColumns sheet.layout.columns = .ok () ∧
        Layout.checkRows sheet.layout.rowHeights.entries = .ok () := by
  have read : (sheetDimensions corner).toOption =
      some ⟨[], [⟨0, 16383, .ofNat 3⟩], .ofList [(1048575, .ofNat 30)]⟩ := by decide +kernel
  have imported : ((sole corner).workbook "t.xlsx").toOption.map
      (fun wb => wb.sheets.map (·.layout)) =
        some [⟨[], [⟨0, 16383, .ofNat 3⟩], .ofList [(1048575, .ofNat 30)]⟩] := by decide +kernel
  have sheets : (sheetDimensions soleSheet).toOption = some {} := by decide +kernel
  have relations : (sheetDimensions soleRelation).toOption = some {} := by decide +kernel
  obtain ⟨wb, imported, shown⟩ := Option.map_eq_some_iff.mp imported
  have imported := ok_of_toOption imported
  obtain ⟨laidOut, fine⟩ := layouts_of_parts (ok_of_toOption read)
  have within : RowsInSheet corner := by
    refine laidOut.rowsInSheet.mp ?_
    generalize Binary64.ofNat 30 = height
    intro e member
    rw [List.mem_singleton.mp member]
    show 1048575 ≤ CellAddress.maxRow
    decide
  have rowless : ∀ {text}, (sheetDimensions text).toOption = some {} → RowsInSheet text := by
    intro text read
    exact (laidOutBy_of_sheetDimensions (ok_of_toOption read)).checkRows.mp rfl
  have all : ∀ part text, (sole corner).readPart? part = .ok (some text) → RowsInSheet text := by
    intro part text present
    rw [sole, readPart?_ofTexts, Except.ok.injEq, Option.map_eq_some_iff] at present
    obtain ⟨entry, found, rfl⟩ := present
    have among := List.mem_of_find?_eq_some found
    simp only [List.mem_cons, List.not_mem_nil, or_false] at among
    rcases among with rfl | rfl | rfl
    · exact rowless sheets
    · exact rowless relations
    · exact within
  refine ⟨_, wb, ok_of_toOption read, laidOut, imported, shown, ?_⟩
  intro sheet member
  obtain ⟨columns, rows⟩ := fine imported sheet member
  exact ⟨columns, rows all⟩

def belowLast : String := "<sheetData><row r='1048577' ht='30' customHeight='1'/></sheetData>"

theorem row_beyond_sheet : ∃ wb, (sole belowLast).workbook "t.xlsx" = .ok wb ∧
    (∃ sheet ∈ wb.sheets, ∃ e ∈ sheet.layout.rowHeights.entries, CellAddress.maxRow < e.1) ∧
    wb.save = .error .beyondSheet := by
  have imported : ((sole belowLast).workbook "t.xlsx").toOption = some {
      sheets := [{ name := "S", layout := ⟨[], [], .ofList [(1048576, .ofNat 30)]⟩ }] } := by
    decide +kernel
  refine ⟨_, ok_of_toOption imported, ?_⟩
  generalize Binary64.ofNat 30 = height
  refine ⟨⟨_, List.mem_singleton_self _, (1048576, height), ?_, ?_⟩, ?_⟩
  · exact List.mem_singleton_self _
  · show CellAddress.maxRow < 1048576
    decide
  · have named : nameFault? "S" = none := by decide
    have refused : Layout.save ⟨[], [], .ofList [(1048576, height)]⟩ = .error .beyondSheet := rfl
    simp only [Workbook.save, List.mapM_cons, Sheet.save, named, refused]
    rfl

end Package

end ReportSheets
