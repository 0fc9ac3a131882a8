import ReportSheets.Proofs.Workbook.Reread

namespace ReportSheets

namespace Layout

def usualPixels : Nat := 64

def shownPixels (layout : Layout) (column : Nat) : Nat :=
  (pixelsAt layout.columns column).getD usualPixels

theorem shownPixels_of_save {layout saved : Layout} (done : layout.save = .ok saved)
    (narrow : ∀ c ∈ layout.columns, c.pixels ≤ widest) (column : Nat) :
    saved.shownPixels column = layout.shownPixels column := by
  obtain ⟨⟨columns, -, -⟩, widths, -⟩ := save_eq_ok_iff.mp done
  rw [shownPixels, shownPixels, widths, pixelsAt_savedColumns_of_narrow columns narrow]

end Layout

namespace Sheet

structure Carried (sheet back : Sheet) : Prop where
  name : back.name = sheet.name
  cells : back.cells = sheet.cells.filterValues (· != .text "")
  merged : back.layout.merged = sheet.layout.merged.filter MergedRange.isWide
  pixels : ∀ column, back.layout.shownPixels column = sheet.layout.shownPixels column

theorem Reread.carried {sheet back : Sheet} {saved : SavedSheet} (reread : sheet.Reread back)
    (done : sheet.save = .ok saved) (kept : ∀ e ∈ sheet.cells.entries, e.2.Kept)
    (narrow : ∀ c ∈ sheet.layout.columns, c.pixels ≤ Layout.widest) : sheet.Carried back where
  name := reread.name
  cells := by
    obtain ⟨-, -, -, fits, -⟩ := save_eq_ok_iff.mp done
    rw [reread.cells]
    exact SortedMap.filterMapValues_eq_filterValues fun e member =>
      CellValue.reread?_of_kept (kept e member) (fits e member).2
  merged := Layout.merged_of_save reread.layout
  pixels := Layout.shownPixels_of_save reread.layout narrow

end Sheet

namespace Workbook

variable {wb : Workbook} {book : SavedBook}

/-- A workbook that is saved and read again shows what it did, where its values are spelled in the
file as they are. -/
theorem carried_of_kept (filled : wb.sheets ≠ []) (done : wb.save = .ok book)
    (counted : book.Countable)
    (kept : ∀ sheet ∈ wb.sheets, ∀ e ∈ sheet.cells.entries, e.2.Kept ∧ e.2.isMarkup = false)
    (narrow : ∀ sheet ∈ wb.sheets, ∀ c ∈ sheet.layout.columns, c.pixels ≤ Layout.widest)
    (path : String) :
    (∃ back, book.load path = .ok back ∧ List.Forall₂ Sheet.Carried wb.sheets back.sheets) ∧
      book.activeTab = if wb.active < wb.size then wb.active else 0 := by
  obtain ⟨saved, -, active⟩ := (save_eq_ok_iff filled).mp done
  have plain : ¬ wb.HasMarkup := by
    rintro ⟨sheet, sheets, e, entries, markup⟩
    rw [(kept sheet sheets e entries).2] at markup
    cases markup
  obtain ⟨back, loads⟩ := exists_load_of_save filled plain done counted
  obtain ⟨-, reread⟩ := reread_of_load filled plain done counted loads
  refine ⟨⟨back, loads, imp_of_mem reread fun sheet sheets back reread => ?_⟩, active⟩
  obtain ⟨stored, -, stores⟩ := exists_of_mem_right saved.flip sheets
  exact reread.carried stores (fun e entries => (kept sheet sheets e entries).1)
    (narrow sheet sheets)

theorem carried_of_kept_totals :
    let totals : Sheet := {
      name := "Totals"
      cells := .ofList [(⟨0, 0⟩, .text "Sum"), (⟨0, 1⟩, .formula "SUM(B2:B3)"), (⟨1, 0⟩, .text ""),
        (⟨1, 1⟩, .number .zero), (⟨2, 1⟩, .bool true)]
      layout := {
        merged := [⟨⟨1, 0⟩, ⟨2, 0⟩⟩, ⟨⟨4, 0⟩, ⟨4, 0⟩⟩]
        columns := [⟨0, 1, Layout.savedWidth 1790⟩, ⟨1, 1, Layout.savedWidth 1⟩] } }
    let wb : Workbook := { sheets := [{ name := "Cover" }, totals], active := 1 }
    ∃ book, wb.save = .ok book ∧ book.activeTab = 1 ∧
      ∃ back, book.load "copy.xlsx" = .ok back ∧
        List.Forall₂ Sheet.Carried wb.sheets back.sheets := by
  intro totals wb
  have accepted : wb.save.toOption.any (fun book => decide book.Countable) = true := by
    decide +kernel
  obtain ⟨book, done, counted⟩ := exists_countable accepted
  have formula : SavedFormula.Kept "SUM(B2:B3)".toList :=
    (SavedFormula.write_eq_self_iff _).mp (by decide)
  have text : Xml.Faithful "Sum".toList :=
    Xml.faithful_of_plain (by simp [Xml.Plain, Xml.isUnwritable])
  have nothing : Xml.Faithful "".toList := Xml.faithful_of_plain (by simp)
  have entries : totals.cells.entries = [(⟨0, 0⟩, .text "Sum"), (⟨0, 1⟩, .formula "SUM(B2:B3)"),
      (⟨1, 0⟩, .text ""), (⟨1, 1⟩, .number .zero), (⟨2, 1⟩, .bool true)] := rfl
  have kept : ∀ sheet ∈ wb.sheets, ∀ e ∈ sheet.cells.entries,
      e.2.Kept ∧ e.2.isMarkup = false := by
    refine List.forall_mem_cons.mpr ⟨List.forall_mem_nil _, List.forall_mem_singleton.mpr ?_⟩
    rw [entries]
    simp only [List.forall_mem_cons, CellValue.Kept]
    exact ⟨⟨text, by decide⟩, ⟨⟨by decide, by decide, formula⟩, rfl⟩, ⟨nothing, by decide⟩,
      ⟨⟨_, _, rfl⟩, rfl⟩, ⟨trivial, rfl⟩, List.forall_mem_nil _⟩
  have narrow : ∀ sheet ∈ wb.sheets, ∀ c ∈ sheet.layout.columns, c.pixels ≤ Layout.widest := by
    refine List.forall_mem_cons.mpr ⟨List.forall_mem_nil _, List.forall_mem_singleton.mpr ?_⟩
    have width : ∀ first last pixels, pixels ≤ Layout.widest →
        (ColumnWidth.mk first last (Layout.savedWidth pixels)).pixels ≤ Layout.widest :=
      fun _ _ _ fits => (Layout.pixelsOf_savedWidth fits).trans_le fits
    exact List.forall_mem_cons.mpr
      ⟨width 0 1 1790 (by decide), List.forall_mem_singleton.mpr (width 1 1 1 (by decide))⟩
  have filled : wb.sheets ≠ [] := by simp [wb]
  obtain ⟨carried, active⟩ := carried_of_kept filled done counted kept narrow "copy.xlsx"
  exact ⟨book, done, active, carried⟩

/-- None of these cells comes back as it was: functions get marks, a brace is lost, a name is written
twice, a sign is taken for a digit, and runs become their text. -/
theorem cells_respelled :
    let sheet : Sheet := {
      name := "Totals"
      cells := .ofList [(⟨0, 0⟩, .formula "CONCAT(B1)"), (⟨1, 0⟩, .formula "\x7b1,2\x7d"),
        (⟨2, 0⟩, .formula "N\"x\""), (⟨3, 0⟩, .text "_x00+1_")] }
    let runs : Sheet := {
      name := "Runs"
      cells := .ofList [(⟨0, 0⟩, .text "<r><t>hi</t></r>")] }
    let copied (sheet : Sheet) : Option (List (SortedMap CellAddress CellValue)) :=
      ((save { sheets := [sheet] }).bind fun book => book.load "copy.xlsx").toOption.map
        fun back => back.sheets.map (·.cells)
    let respelled : SortedMap CellAddress CellValue :=
      .ofList [(⟨0, 0⟩, .formula "_xlfn.CONCAT(B1)"), (⟨1, 0⟩, .formula "\x7b1,2"),
        (⟨2, 0⟩, .formula "\"xN\"x\""), (⟨3, 0⟩, .text "\x01")]
    copied sheet = some [respelled] ∧
      (∀ e ∈ sheet.cells.entries, respelled.get? e.1 ≠ some e.2) ∧
      copied runs = some [.ofList [(⟨0, 0⟩, .text "hi")]] := by
  intro sheet runs copied respelled
  have copies : ∀ sheet back : Sheet, copied? { sheets := [sheet] } = some [back] →
      copied sheet = some [back.cells] := by
    intro sheet back found
    show ((save { sheets := [sheet] }).bind fun book => book.load "copy.xlsx").toOption.map _ = _
    rw [load_of_copied? (by simp) found]
    rfl
  let back : Sheet := { name := "Totals", cells := respelled }
  let plain : Sheet := { name := "Runs", cells := .ofList [(⟨0, 0⟩, .text "hi")] }
  have first := copies sheet back (by decide +kernel)
  have second := copies runs plain (by decide +kernel)
  exact ⟨first, by decide, second⟩

end Workbook

end ReportSheets
