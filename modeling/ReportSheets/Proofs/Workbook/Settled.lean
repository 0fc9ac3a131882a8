import Mathlib.Data.List.Perm.Subperm
import ReportSheets.Proofs.Workbook.Reread

namespace ReportSheets

namespace CellValue

def Stays : CellValue → Prop
  | .text s => s ≠ "" ∧ s.length ≤ SavedCell.maxTextLength ∧ Xml.Faithful s.toList
  | .formula f => f ≠ "" ∧ f.toList.head? ≠ some '=' ∧ SavedFormula.Kept f.toList
  | _ => True

def Finite (value : CellValue) : Prop := ∀ n, value = .number n → (number n).Kept

variable {value : CellValue} {cell : SavedCell} {read : String → Option String}

theorem reread?_eq_some_self_iff_stays (finite : value.Finite) :
    value.reread? = some value ↔ value.Stays := by
  rw [reread?_eq_self_iff]
  cases value with
  | text s => simp [Kept, Fits, Stays, and_comm, and_assoc]
  | number n => simp [finite n rfl, Fits, Stays]
  | bool b => simp [Kept, Fits, Stays]
  | formula f => simp [Kept, Fits, Stays]

theorem fits_of_stays (stays : value.Stays) : value.Fits := by
  cases value with
  | text s => exact stays.2.1
  | _ => trivial

theorem kept_of_saved? {origin : CellValue} {n : Binary64}
    (held : origin.saved? = some (.number n)) : (number n).Kept := by
  cases origin with
  | text s =>
    rw [saved?, SavedCell.ofValue] at held
    split at held
    · cases held
    · split at held <;> cases held
  | number given =>
    cases given with
    | finite negative magnitude =>
      cases held
      exact ⟨_, _, rfl⟩
    | _ => cases held
  | bool b => cases held
  | formula f => cases held

theorem eq_text_of_saved? {s : String} (finite : value.Finite)
    (held : value.saved? = some (.text s)) : value = .text s := by
  cases value with
  | text t =>
    rw [saved?, SavedCell.ofValue] at held
    split at held
    · cases held
    · split at held <;> cases held
      rfl
  | number n =>
    obtain ⟨negative, magnitude, rfl⟩ := finite n rfl
    cases held
  | bool b => cases held
  | formula f => cases held

/-- Numbers come out of a file as those that it holds, or as the result of an empty formula. -/
theorem finite_of_saved? {origin : CellValue} (held : origin.saved? = some cell)
    (comes : cell.value? read = some value) : value.Finite := by
  rintro n rfl
  cases cell with
  | text s =>
    obtain ⟨_, -, made⟩ := Option.map_eq_some_iff.mp comes
    cases made
  | number given =>
    cases comes
    exact kept_of_saved? held
  | bool b => cases comes
  | formula f =>
    rw [SavedCell.value?] at comes
    split at comes
    · cases comes
      exact ⟨_, _, rfl⟩
    · cases comes

end CellValue

namespace Sheet

structure FromFile (sheet : Sheet) : Prop where
  named : nameFault? sheet.name = none
  layout : sheet.layout.save = .ok sheet.layout
  inBounds : ∀ e ∈ sheet.cells.entries, e.1.InBounds
  finite : ∀ e ∈ sheet.cells.entries, e.2.Finite

def reread (sheet : Sheet) : Sheet :=
  { sheet with cells := sheet.cells.filterMapValues CellValue.reread? }

variable {sheet back : Sheet} {saved : SavedSheet} {read : String → Option String}

/-- Whatever becomes of the texts, the sheet that reading gives has come out of a file. -/
theorem fromFile_of_load (done : sheet.save = .ok saved) (loads : saved.load read = .ok back) :
    back.name = sheet.name ∧ back.FromFile := by
  obtain ⟨named, name, layout, each, cells⟩ := save_eq_ok_iff.mp done
  obtain ⟨-, sameName, sameCells, sameLayout⟩ := SavedSheet.load_eq_ok_iff.mp loads
  -- Each cell that is read was stored, and each that was stored comes of a cell of the sheet.
  have origins : ∀ e ∈ back.cells.entries, ∃ origin ∈ sheet.cells.entries, origin.1 = e.1 ∧
      ∃ cell, origin.2.saved? = some cell ∧ cell.value? read = some e.2 := by
    intro e member
    rw [sameCells, cells] at member
    obtain ⟨stored, stores, place, comes⟩ := SortedMap.exists_of_mem_filterMapValues member
    obtain ⟨origin, among, kept, held⟩ := SortedMap.exists_of_mem_filterMapValues stores
    exact ⟨origin, among, kept.trans place, stored.2, held, comes⟩
  refine ⟨sameName.trans name, ?_, ?_, fun e member => ?_, fun e member => ?_⟩
  · rw [sameName, name]
    exact named
  · rw [sameLayout]
    exact Layout.save_of_save layout
  · obtain ⟨origin, among, place, -⟩ := origins e member
    exact place ▸ (each origin among).1
  · obtain ⟨origin, -, -, cell, held, comes⟩ := origins e member
    exact CellValue.finite_of_saved? held comes

namespace FromFile

variable (fromFile : sheet.FromFile)
include fromFile

theorem exists_save_iff :
    (∃ saved, sheet.save = .ok saved) ↔ ∀ e ∈ sheet.cells.entries, e.2.Fits := by
  constructor
  · rintro ⟨saved, done⟩ e member
    exact ((save_eq_ok_iff.mp done).2.2.2.1 e member).2
  · intro fits
    exact ⟨⟨sheet.name, sheet.cells.filterMapValues CellValue.saved?, sheet.layout⟩,
      save_eq_ok_iff.mpr ⟨fromFile.named, rfl, fromFile.layout,
        fun e member => ⟨fromFile.inBounds e member, fits e member⟩, rfl⟩⟩

theorem eq_reread (reread : sheet.Reread back) : back = sheet.reread := by
  obtain ⟨name, cells, layout⟩ := reread
  rw [fromFile.layout, Except.ok.injEq] at layout
  obtain ⟨_, _, _⟩ := back
  simp only [Sheet.reread, Sheet.mk.injEq]
  exact ⟨name, cells, layout.symm⟩

theorem reread_eq_self_iff : sheet.reread = sheet ↔ ∀ e ∈ sheet.cells.entries, e.2.Stays := by
  have cells : sheet.reread = sheet ↔
      sheet.cells.filterMapValues CellValue.reread? = sheet.cells := by
    obtain ⟨_, _, _⟩ := sheet
    simp [Sheet.reread]
  rw [cells, SortedMap.filterMapValues_eq_self_iff]
  exact forall₂_congr fun e member =>
    CellValue.reread?_eq_some_self_iff_stays (fromFile.finite e member)

end FromFile

end Sheet

namespace Workbook

structure FromFile (wb : Workbook) : Prop where
  filled : wb.sheets ≠ []
  active : wb.active = 0
  apart : ¬ wb.Clash
  sheets : ∀ sheet ∈ wb.sheets, sheet.FromFile

def reread (wb : Workbook) : Workbook := { wb with sheets := wb.sheets.map Sheet.reread }

variable {wb back : Workbook} {book : SavedBook} {path : String}

theorem fromFile_of_load (filled : wb.sheets ≠ []) (done : wb.save = .ok book)
    (counted : book.Countable) (loads : book.load path = .ok back) : back.FromFile := by
  obtain ⟨saved, apart, -⟩ := (save_eq_ok_iff filled).mp done
  obtain ⟨active, read, -, loaded⟩ :=
    (SavedBook.load_eq_ok_iff (sound_of_save filled done counted)).mp loads
  have each := forall₂_trans saved loaded Sheet.fromFile_of_load
  have names : back.names = wb.names := by
    rw [names, names, ← List.forall₂_eq_eq_eq, List.forall₂_map_left_iff,
      List.forall₂_map_right_iff]
    exact (each.imp fun _ _ came => came.1).flip
  refine ⟨?_, active, by rwa [Clash, names], fun sheet member => ?_⟩
  · rintro empty
    rw [empty, List.forall₂_nil_right_iff] at each
    exact filled each
  · obtain ⟨-, -, -, fromFile⟩ := exists_of_mem_right each member
    exact fromFile

namespace FromFile

variable (fromFile : wb.FromFile)
include fromFile

/-- What has come out of a file is refused for texts alone that have grown too long. -/
theorem exists_save_iff :
    (∃ book, wb.save = .ok book) ↔
      ∀ sheet ∈ wb.sheets, ∀ e ∈ sheet.cells.entries, e.2.Fits := by
  constructor
  · rintro ⟨book, done⟩ sheet member
    obtain ⟨saved, -, -⟩ := (save_eq_ok_iff fromFile.filled).mp done
    obtain ⟨stored, -, stores⟩ := exists_of_mem_right saved.flip member
    exact (fromFile.sheets sheet member).exists_save_iff.mp ⟨stored, stores⟩
  · intro fits
    cases each : wb.sheets.mapM Sheet.save with
    | error e =>
      obtain ⟨sheet, member, failed⟩ := of_mapM_error each
      obtain ⟨stored, stores⟩ :=
        (fromFile.sheets sheet member).exists_save_iff.mpr (fits sheet member)
      rw [failed] at stores
      cases stores
    | ok saved =>
      exact ⟨⟨saved, _⟩, (save_eq_ok_iff fromFile.filled).mpr
        ⟨mapM_eq_ok_iff.mp each, fromFile.apart, rfl⟩⟩

theorem load_of_save (plain : ¬ wb.HasMarkup) (done : wb.save = .ok book)
    (counted : book.Countable) : book.load path = .ok wb.reread := by
  obtain ⟨back, loads⟩ : ∃ back, book.load path = .ok back :=
    exists_load_of_save fromFile.filled plain done counted
  obtain ⟨active, reread⟩ := reread_of_load fromFile.filled plain done counted loads
  have each : List.Forall₂ (fun sheet back => sheet.reread = back) wb.sheets back.sheets :=
    imp_of_mem reread fun sheet member back came =>
      ((fromFile.sheets sheet member).eq_reread came).symm
  rw [← List.forall₂_map_left_iff (f := Sheet.reread), List.forall₂_eq_eq_eq] at each
  obtain ⟨sheets, first⟩ := back
  dsimp only at active each
  rw [loads, Workbook.reread, fromFile.active, each, active]

theorem reread_eq_self_iff :
    wb.reread = wb ↔ ∀ sheet ∈ wb.sheets, ∀ e ∈ sheet.cells.entries, e.2.Stays := by
  have sheets : wb.reread = wb ↔ wb.sheets.map Sheet.reread = wb.sheets.map id := by
    obtain ⟨_, _⟩ := wb
    simp [Workbook.reread]
  rw [sheets, List.map_inj_left]
  exact forall₂_congr fun sheet member => (fromFile.sheets sheet member).reread_eq_self_iff

theorem exists_same_iff (plain : ¬ wb.HasMarkup)
    (counted : ∀ book, wb.save = .ok book → book.Countable) :
    (∃ book, wb.save = .ok book ∧ book.load path = .ok wb) ↔
      ∀ sheet ∈ wb.sheets, ∀ e ∈ sheet.cells.entries, e.2.Stays := by
  rw [← fromFile.reread_eq_self_iff]
  constructor
  · rintro ⟨book, done, same⟩
    rw [fromFile.load_of_save plain done (counted book done)] at same
    exact Except.ok.inj same
  · intro settled
    have stays := fromFile.reread_eq_self_iff.1 settled
    obtain ⟨book, done⟩ := fromFile.exists_save_iff.2 fun sheet member e entries =>
      CellValue.fits_of_stays (stays sheet member e entries)
    exact ⟨book, done,
      (fromFile.load_of_save plain done (counted book done)).trans (congrArg _ settled)⟩

end FromFile

/-- What has come out of a file has no more texts than the file. -/
theorem countable_again {once : Workbook} {second : SavedBook} (filled : wb.sheets ≠ [])
    (done : wb.save = .ok book) (counted : book.Countable) (loads : book.load path = .ok once)
    (again : once.save = .ok second) : second.Countable := by
  have fromFile := fromFile_of_load filled done counted loads
  obtain ⟨-, read, -, loaded⟩ :=
    (SavedBook.load_eq_ok_iff (sound_of_save filled done counted)).mp loads
  obtain ⟨saved, -, -⟩ := (save_eq_ok_iff fromFile.filled).mp again
  have among : second.texts ⊆ book.texts.filterMap read := by
    intro text member
    obtain ⟨stored, stores, e, entries, holds⟩ := SavedBook.mem_texts_iff.mp member
    obtain ⟨sheet, sheets, saves⟩ := exists_of_mem_right saved stores
    obtain ⟨origin, origins, held⟩ := Sheet.exists_origin_of_save saves entries
    have value := CellValue.eq_text_of_saved? ((fromFile.sheets sheet sheets).finite origin origins)
      (holds ▸ held)
    obtain ⟨first, firsts, came⟩ := exists_of_mem_right loaded sheets
    obtain ⟨cell, cells, comes⟩ := SavedSheet.exists_origin_of_load came origins
    rw [value] at comes
    obtain ⟨s, isText, reads⟩ := SavedCell.exists_of_value?_text comes
    have known : s ∈ book.texts := SavedBook.mem_texts_iff.mpr ⟨first, firsts, cell, cells, isText⟩
    exact List.mem_filterMap.mpr ⟨s, known, reads⟩
  calc second.texts.length
      ≤ (book.texts.filterMap read).length :=
        (List.subperm_of_subset second.nodup_texts among).length_le
    _ ≤ book.texts.length := List.length_filterMap_le read book.texts
    _ ≤ Template.maxIndex + 1 := counted

/-- A workbook that has been read from a file is read from the next one as it is when each of its
texts and formulas stays, and only then. Whenever it can be saved again, everything but its cells
comes back as it was, and each cell that stays does so too. -/
theorem settled_after_first_reading (filled : wb.sheets ≠ []) (done : wb.save = .ok book)
    (counted : book.Countable) (path : String) :
    (¬ wb.HasMarkup → ∃ once, book.load path = .ok once) ∧
    ∀ once, book.load path = .ok once → ¬ once.HasMarkup →
      ((∃ second, once.save = .ok second ∧ second.load path = .ok once) ↔
        ∀ sheet ∈ once.sheets, ∀ e ∈ sheet.cells.entries, e.2.Stays) ∧
      ((∃ second, once.save = .ok second) ↔
        ∀ sheet ∈ once.sheets, ∀ e ∈ sheet.cells.entries, e.2.Fits) ∧
      (∀ second, once.save = .ok second → second.load path = .ok once.reread) ∧
      ∀ sheet ∈ once.sheets, ∀ e ∈ sheet.cells.entries, e.2.reread? = some e.2 ↔ e.2.Stays := by
  refine ⟨fun plain => exists_load_of_save filled plain done counted, fun once loads plain => ?_⟩
  have fromFile := fromFile_of_load filled done counted loads
  have few : ∀ second, once.save = .ok second → second.Countable :=
    fun second again => countable_again filled done counted loads again
  exact ⟨fromFile.exists_same_iff plain few, fromFile.exists_save_iff, fun second again =>
    fromFile.load_of_save plain again (few second again), fun sheet member e entries =>
      CellValue.reread?_eq_some_self_iff_stays ((fromFile.sheets sheet member).finite e entries)⟩

theorem settled_after_first_reading_totals :
    let totals : Sheet := {
      name := "Totals"
      cells := .ofList [(⟨0, 0⟩, .text "Sum"), (⟨0, 1⟩, .formula "=SUM(B2:B3)"), (⟨1, 0⟩, .text "")]
      layout := {
        merged := [⟨⟨1, 0⟩, ⟨2, 0⟩⟩, ⟨⟨4, 0⟩, ⟨4, 0⟩⟩]
        columns := [⟨0, 1, .zero⟩, ⟨1, 1, .nan⟩] } }
    ∃ book once, save { sheets := [totals], active := 3 } = .ok book ∧
      book.load "copy.xlsx" = .ok once ∧
      ∃ second, once.save = .ok second ∧ second.load "copy.xlsx" = .ok once := by
  intro totals
  obtain ⟨wb, isWb⟩ : ∃ wb : Workbook, wb = { sheets := [totals], active := 3 } := ⟨_, rfl⟩
  have filled : wb.sheets ≠ [] := by simp [isWb]
  have only : ∀ sheet ∈ wb.sheets, sheet = totals := by simp [isWb]
  have plain : ¬ wb.HasMarkup := by
    have none : ∀ e ∈ totals.cells.entries, ¬ e.2.isMarkup = true := by decide
    rintro ⟨sheet, member, e, entries, markup⟩
    rw [only sheet member] at entries
    exact none e entries markup
  have accepted : wb.save.toOption.any (fun book => decide book.Countable) = true := by
    rw [isWb]
    decide +kernel
  obtain ⟨book, done, counted⟩ := exists_countable accepted
  obtain ⟨loads, settles⟩ := settled_after_first_reading filled done counted "copy.xlsx"
  obtain ⟨once, loaded⟩ := loads plain
  have cells : ∀ sheet ∈ once.sheets, sheet.cells.entries =
      [(⟨0, 0⟩, .text "Sum"), (⟨0, 1⟩, .formula "SUM(B2:B3)")] := by
    intro sheet member
    obtain ⟨origin, origins, came⟩ :=
      exists_of_mem_right (reread_of_load filled plain done counted loaded).2 member
    rw [came.cells, only origin origins]
    rfl
  have unmarked : ¬ once.HasMarkup := by
    rintro ⟨sheet, member, e, entries, markup⟩
    rw [cells sheet member] at entries
    revert markup
    revert e
    decide
  have text : Xml.Faithful "Sum".toList :=
    Xml.faithful_of_plain (by simp [Xml.Plain, Xml.isUnwritable])
  have formula : SavedFormula.Kept "SUM(B2:B3)".toList :=
    (SavedFormula.write_eq_self_iff _).mp (by decide)
  have stays : ∀ sheet ∈ once.sheets, ∀ e ∈ sheet.cells.entries, e.2.Stays := by
    intro sheet member
    rw [cells sheet member]
    simp only [List.forall_mem_cons, CellValue.Stays]
    exact ⟨⟨by decide, by decide, text⟩, ⟨by decide, by decide, formula⟩, List.forall_mem_nil _⟩
  rw [← isWb]
  exact ⟨book, once, done, loaded, (settles once loaded unmarked).1.mpr stays⟩

/-- Not everything settles at once: equals signs and braces are lost one at a time, a low line lent to
one number sets another free, and runs may hold runs. -/
theorem not_settled_after_first_reading :
    let sheet : Sheet := {
      name := "Totals"
      cells := .ofList [(⟨0, 0⟩, .formula "==B1"), (⟨1, 0⟩, .formula "="),
        (⟨2, 0⟩, .formula "\x7b1\x7d\x7d"), (⟨3, 0⟩, .text "_x00+1_x005F_x00+3_")] }
    let runs : Sheet := {
      name := "Runs"
      cells := .ofList [(⟨0, 0⟩, .text "<r><t>&lt;r>&lt;t>hi&lt;/t>&lt;/r></t></r>")] }
    let copy? (wb : Workbook) : Option Workbook :=
      (wb.save.bind fun book => book.load "copy.xlsx").toOption
    let cells (wb : Workbook) : List (SortedMap CellAddress CellValue) := wb.sheets.map (·.cells)
    (copy? { sheets := [sheet] }).map cells = some [.ofList [(⟨0, 0⟩, .formula "=B1"),
      (⟨1, 0⟩, .formula ""), (⟨2, 0⟩, .formula "\x7b1\x7d"), (⟨3, 0⟩, .text "\x01x005F_x00+3_")]] ∧
    ((copy? { sheets := [sheet] }).bind copy?).map cells = some [.ofList [(⟨0, 0⟩, .formula "B1"),
      (⟨1, 0⟩, .number .zero), (⟨2, 0⟩, .formula "\x7b1"), (⟨3, 0⟩, .text "\x01x005F\x03")]] ∧
    (copy? { sheets := [runs] }).map cells =
      some [.ofList [(⟨0, 0⟩, .text "<r><t>hi</t></r>")]] ∧
    ((copy? { sheets := [runs] }).bind copy?).map cells = some [.ofList [(⟨0, 0⟩, .text "hi")]] := by
  intro sheet runs copy? cells
  have copies : ∀ sheet back : Sheet, copied? { sheets := [sheet] } = some [back] →
      copy? { sheets := [sheet] } = some { sheets := [back] } := by
    intro sheet back found
    show ((save { sheets := [sheet] }).bind fun book => book.load "copy.xlsx").toOption = _
    rw [load_of_copied? (by simp) found]
    rfl
  let once : Sheet := {
    name := "Totals"
    cells := .ofList [(⟨0, 0⟩, .formula "=B1"), (⟨1, 0⟩, .formula ""),
      (⟨2, 0⟩, .formula "\x7b1\x7d"), (⟨3, 0⟩, .text "\x01x005F_x00+3_")] }
  let twice : Sheet := {
    name := "Totals"
    cells := .ofList [(⟨0, 0⟩, .formula "B1"), (⟨1, 0⟩, .number .zero), (⟨2, 0⟩, .formula "\x7b1"),
      (⟨3, 0⟩, .text "\x01x005F\x03")] }
  let run : Sheet := { name := "Runs", cells := .ofList [(⟨0, 0⟩, .text "<r><t>hi</t></r>")] }
  let plain : Sheet := { name := "Runs", cells := .ofList [(⟨0, 0⟩, .text "hi")] }
  have first := copies sheet once (by decide +kernel)
  have second := copies once twice (by decide +kernel)
  have firstRuns := copies runs run (by decide +kernel)
  have secondRuns := copies run plain (by decide +kernel)
  rw [first, firstRuns, Option.bind_some, Option.bind_some, second, secondRuns]
  exact ⟨rfl, rfl, rfl, rfl⟩

end Workbook

end ReportSheets
