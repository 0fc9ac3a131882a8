import ReportSheets.Proofs.Workbook.Layouts
import ReportSheets.Proofs.Workbook.ReadBook
import ReportSheets.Proofs.Workbook.SavedFormula
import ReportSheets.Proofs.Workbook.Saving

namespace ReportSheets

namespace CellValue

def Fits : CellValue → Prop
  | .text s => s.length ≤ SavedCell.maxTextLength
  | _ => True

def saved? (value : CellValue) : Option SavedCell := (SavedCell.ofValue value).toOption.join

def reread? (value : CellValue) : Option CellValue :=
  value.saved?.bind (SavedCell.value? fun text => some (SavedBook.readPlain text))

/-- The file's own spelling of the value is the value's, and no reader takes it for another. -/
def Kept : CellValue → Prop
  | .text s => Xml.Faithful s.toList
  | .number n => ∃ negative magnitude, n = .finite negative magnitude
  | .bool _ => True
  | .formula f => f ≠ "" ∧ f.toList.head? ≠ some '=' ∧ SavedFormula.Kept f.toList

variable {value : CellValue} {cell : Option SavedCell}

theorem ofValue_eq_ok_iff :
    SavedCell.ofValue value = .ok cell ↔ value.Fits ∧ value.saved? = cell := by
  cases value with
  | text s =>
    rw [saved?, SavedCell.ofValue, Fits, ← Nat.not_lt]
    split
    · simp [*]
    · split <;> simp [*, Except.toOption]
  | number n => simp [SavedCell.ofValue, Fits, saved?, Except.toOption]
  | bool b => simp [SavedCell.ofValue, Fits, saved?, Except.toOption]
  | formula f => simp [SavedCell.ofValue, Fits, saved?, Except.toOption]

theorem reread?_text {s : String} (fits : (text s).Fits) :
    (text s).reread? = if s = "" then none else some (.text (SavedBook.readPlain s)) := by
  rw [reread?, saved?, SavedCell.ofValue, if_neg (Nat.not_lt.mpr fits)]
  split <;> rfl

theorem not_reread?_of_not_fits (long : ¬ value.Fits) : value.reread? = none := by
  cases value with
  | text s =>
    rw [Fits, Nat.not_le] at long
    rw [reread?, saved?, SavedCell.ofValue, if_pos long]
    rfl
  | number n => exact absurd trivial long
  | bool b => exact absurd trivial long
  | formula f => exact absurd trivial long

theorem readPlain_eq_self_iff (text : String) :
    SavedBook.readPlain text = text ↔ Xml.Faithful text.toList := by
  rw [← Xml.readNumbered_written_iff, SavedBook.readPlain, Packed.plainText, ← Xml.written]
  constructor
  · intro same
    rw [← String.toList_ofList (l := Xml.readNumbered _), same]
  · intro same
    rw [same, String.ofList_toList]

theorem reread?_number_iff {n : Binary64} :
    (number n).reread? = some (.number n) ↔ (number n).Kept := by
  cases n with
  | nan => simp [reread?, saved?, SavedCell.ofValue, SavedCell.ofNumber, Except.toOption,
      SavedCell.value?, Kept]
  | infinite negative => simp [reread?, saved?, SavedCell.ofValue, SavedCell.ofNumber,
      Except.toOption, SavedCell.value?, Kept]
  | finite negative magnitude => simp [reread?, saved?, SavedCell.ofValue, SavedCell.ofNumber,
      Except.toOption, SavedCell.value?, Kept]

theorem equals_after?_eq_none_iff {chars : List Char} :
    Text.after? ['='] chars = none ↔ chars.head? ≠ some '=' := by
  cases chars with
  | nil => simp [Text.after?]
  | cons c rest => simp [Text.after?, eq_comm]

/-- A formula comes back as it was when it stands in the file as it is and loses no equals sign. -/
theorem reread?_formula_iff {f : String} :
    (formula f).reread? = some (.formula f) ↔ (formula f).Kept := by
  have held : (formula f).reread? =
      SavedCell.value? (fun text => some (SavedBook.readPlain text))
        (.formula (SavedFormula.write f)) := rfl
  rw [held, SavedCell.value?, Kept, ← SavedFormula.write_eq_self_iff]
  by_cases empty : SavedFormula.write f = ""
  · rw [if_pos empty, empty]
    simp only [Option.some.injEq, reduceCtorEq, false_iff]
    rintro ⟨some, -, rfl⟩
    exact some rfl
  rw [if_neg empty]
  cases led : Text.after? ['='] (SavedFormula.write f).toList with
  | none =>
    rw [Option.getD_none, String.ofList_toList]
    simp only [Option.some.injEq, formula.injEq]
    constructor
    · intro same
      rw [same] at empty led
      exact ⟨empty, equals_after?_eq_none_iff.1 led, same⟩
    · rintro ⟨-, -, same⟩
      exact same
  | some rest =>
    rw [Option.getD_some]
    simp only [Option.some.injEq, formula.injEq]
    -- The sign that is lost would have to be one that the file had put there, and it puts none.
    have begins : (SavedFormula.write f).toList = '=' :: rest := Text.after?_eq_some_iff.mp led
    constructor
    · rintro rfl
      refine absurd ?_ (SavedFormula.write_ne_equals_cons (String.ofList rest))
      rw [begins, String.toList_ofList]
    · rintro ⟨-, other, same⟩
      rw [same] at begins
      exact absurd (by rw [begins]; rfl) other

theorem reread?_eq_self_iff :
    value.reread? = some value ↔ value.Kept ∧ value.Fits ∧ value ≠ .text "" := by
  cases value with
  | text s =>
    by_cases fits : (text s).Fits
    · rw [reread?_text fits, Kept, ← readPlain_eq_self_iff]
      by_cases empty : s = ""
      · simp [empty]
      · simp [empty, fits]
    · simp [not_reread?_of_not_fits fits, fits]
  | number n => simp [reread?_number_iff, Fits]
  | bool b =>
    simp [reread?, saved?, SavedCell.ofValue, Except.toOption, SavedCell.value?, Kept, Fits]
  | formula f => simp [reread?_formula_iff, Fits]

/-- A value that is kept is lost only as an empty text. -/
theorem reread?_of_kept (kept : value.Kept) (fits : value.Fits) :
    value.reread? = if value != .text "" then some value else none := by
  by_cases empty : value = .text ""
  · subst empty
    rfl
  · rw [if_pos (bne_iff_ne.mpr empty)]
    exact reread?_eq_self_iff.2 ⟨kept, fits, empty⟩

def isMarkup : CellValue → Bool
  | .text s => Packed.isMarkup s
  | _ => false

theorem isMarkup_of_saved? {s : String} (held : value.saved? = some (.text s))
    (plain : value.isMarkup = false) : Packed.isMarkup s = false := by
  cases value with
  | text t =>
    rw [saved?, SavedCell.ofValue] at held
    split at held
    · cases held
    · split at held
      · cases held
      · cases held
        exact plain
  | number n =>
    cases n with
    | nan =>
      cases held
      decide
    | infinite negative =>
      cases negative <;> cases held <;> decide
    | finite negative magnitude => cases held
  | bool b => cases held
  | formula f => cases held

theorem exists_of_saved?_formula {f : String} (held : value.saved? = some (.formula f)) :
    ∃ g, f = SavedFormula.write g := by
  cases value with
  | text s =>
    rw [saved?, SavedCell.ofValue] at held
    split at held
    · cases held
    · split at held <;> cases held
  | number n => cases n <;> cases held
  | bool b => cases held
  | formula g =>
    cases held
    exact ⟨g, rfl⟩

end CellValue

namespace Sheet

structure Reread (sheet back : Sheet) : Prop where
  name : back.name = sheet.name
  cells : back.cells = sheet.cells.filterMapValues CellValue.reread?
  layout : sheet.layout.save = .ok back.layout

variable {sheet back : Sheet} {saved : SavedSheet}

theorem saveCells_eq_ok_iff {entries : List (CellAddress × CellValue)}
    {cells : List (CellAddress × SavedCell)} :
    saveCells entries = .ok cells ↔
      (∀ e ∈ entries, e.1.InBounds ∧ e.2.Fits) ∧
        (entries.filterMap fun e => e.2.saved?.map fun cell => (e.1, cell)) = cells := by
  induction entries generalizing cells with
  | nil => simp [saveCells]
  | cons entry entries ih =>
    obtain ⟨address, value⟩ := entry
    rw [saveCells, List.forall_mem_cons, List.filterMap_cons]
    constructor
    · intro done
      split at done
      · cases done
      rename_i bounds
      obtain ⟨cell, first, done⟩ := of_bind_ok done
      obtain ⟨more, later, done⟩ := of_bind_ok done
      obtain ⟨fits, held⟩ := CellValue.ofValue_eq_ok_iff.1 first
      obtain ⟨each, rest⟩ := ih.mp later
      refine ⟨⟨⟨not_not.mp bounds, fits⟩, each⟩, ?_⟩
      rw [← Except.ok.inj done, held, rest]
      cases cell <;> rfl
    · rintro ⟨⟨⟨bounds, fits⟩, each⟩, rfl⟩
      rw [if_neg (not_not.mpr bounds), CellValue.ofValue_eq_ok_iff.2 ⟨fits, rfl⟩,
        ih.mpr ⟨each, rfl⟩]
      cases value.saved? <;> rfl

/-- A sheet is refused for its name, its layout or its cells, and else saved without what a file does
not hold. -/
theorem save_eq_ok_iff :
    sheet.save = .ok saved ↔
      nameFault? sheet.name = none ∧ saved.name = sheet.name ∧
      sheet.layout.save = .ok saved.layout ∧
      (∀ e ∈ sheet.cells.entries, e.1.InBounds ∧ e.2.Fits) ∧
      saved.cells = sheet.cells.filterMapValues CellValue.saved? := by
  unfold save
  constructor
  · intro done
    split at done
    · cases done
    rename_i named
    obtain ⟨layout, layouts, done⟩ := of_bind_ok done
    obtain ⟨cells, listed, done⟩ := of_bind_ok done
    obtain ⟨each, rfl⟩ := saveCells_eq_ok_iff.1 listed
    rw [← Except.ok.inj done]
    exact ⟨named, rfl, layouts, each, SortedMap.ofList_filterMapValues _ _⟩
  · rintro ⟨named, name, layouts, each, cells⟩
    obtain ⟨savedName, savedCells, layout⟩ := saved
    dsimp only at name layouts cells
    rw [named, layouts, saveCells_eq_ok_iff.2 ⟨each, rfl⟩, name, cells,
      ← SortedMap.ofList_filterMapValues]
    rfl

theorem exists_origin_of_save (done : sheet.save = .ok saved) {e : CellAddress × SavedCell}
    (member : e ∈ saved.cells.entries) :
    ∃ origin ∈ sheet.cells.entries, origin.2.saved? = some e.2 := by
  obtain ⟨-, -, -, -, cells⟩ := save_eq_ok_iff.1 done
  rw [cells] at member
  obtain ⟨origin, among, -, held⟩ := SortedMap.exists_of_mem_filterMapValues member
  exact ⟨origin, among, held⟩

theorem sound_of_save (done : sheet.save = .ok saved) : saved.Sound := by
  obtain ⟨-, -, layouts, each, cells⟩ := save_eq_ok_iff.1 done
  obtain ⟨⟨-, rows, merges⟩, columns, heights⟩ := Layout.save_eq_ok_iff.1 layouts
  have origins : ∀ e ∈ saved.cells.entries, ∃ origin ∈ sheet.cells.entries,
      origin.1 = e.1 ∧ origin.2.saved? = some e.2 := by
    rw [cells]
    exact fun e => SortedMap.exists_of_mem_filterMapValues
  constructor
  · intro e member
    obtain ⟨origin, among, place, -⟩ := origins e member
    exact place ▸ (each origin among).1
  · rintro e member f holds
    obtain ⟨origin, -, -, held⟩ := origins e member
    rw [holds] at held
    obtain ⟨g, rfl⟩ := CellValue.exists_of_saved?_formula held
    rw [SavedFormula.write, String.toList_ofList]
    exact Xml.return_not_mem_writeNumbered _
  · exact Layout.inBounds_of_saveMerges merges (List.forall_mem_nil _)
  · exact Layout.checkColumns_eq_ok_iff.1 (columns ▸ Layout.checkColumns_savedColumns)
  · exact Layout.checkRows_eq_ok_iff.1 (heights ▸ Layout.checkRows_filterValues rows)

end Sheet

namespace SavedSheet

variable {read : String → Option String} {saved : SavedSheet} {sheet : Sheet}

theorem isSome_value?_plain (cell : SavedCell) :
    (cell.value? fun text => some (SavedBook.readPlain text)).isSome := by
  cases cell with
  | formula f =>
    rw [SavedCell.value?]
    split <;> rfl
  | _ => rfl

theorem reread_of_load_plain {origin : Sheet} (done : origin.save = .ok saved)
    (loads : saved.load (fun text => some (SavedBook.readPlain text)) = .ok sheet) :
    origin.Reread sheet := by
  obtain ⟨-, name, layout, -, cells⟩ := Sheet.save_eq_ok_iff.1 done
  obtain ⟨-, sameName, sameCells, sameLayout⟩ := load_eq_ok_iff.1 loads
  rw [cells, SortedMap.filterMapValues_filterMapValues] at sameCells
  exact ⟨sameName.trans name, sameCells, sameLayout ▸ layout⟩

end SavedSheet

namespace Workbook

def HasMarkup (wb : Workbook) : Prop :=
  ∃ sheet ∈ wb.sheets, ∃ e ∈ sheet.cells.entries, e.2.isMarkup = true

variable {wb back : Workbook} {book : SavedBook} {path : String}

theorem sound_of_save (filled : wb.sheets ≠ []) (done : wb.save = .ok book)
    (counted : book.Countable) : book.Sound where
  sheets := by
    intro saved member
    obtain ⟨sheet, -, saves⟩ := exists_of_mem_right ((save_eq_ok_iff filled).mp done).1 member
    exact Sheet.sound_of_save saves
  names := by
    obtain ⟨saved, apart, -⟩ := (save_eq_ok_iff filled).mp done
    have names : book.sheets.map (·.name) = wb.names := by
      rw [Workbook.names, ← List.forall₂_eq_eq_eq, List.forall₂_map_left_iff,
        List.forall₂_map_right_iff]
      exact (saved.imp fun _ _ saves => Sheet.name_of_save saves).flip
    rw [names]
    exact (repeatedName?_eq_none_iff.1 (not_clash_iff.1 apart)).1.of_map
  counted := counted

theorem any_isMarkup_of_save (filled : wb.sheets ≠ []) (plain : ¬ wb.HasMarkup)
    (done : wb.save = .ok book) : book.texts.any Packed.isMarkup = false := by
  obtain ⟨saved, -, -⟩ := (save_eq_ok_iff filled).mp done
  rw [List.any_eq_false]
  intro text member markup
  obtain ⟨savedSheet, among, e, entries, holds⟩ := SavedBook.mem_texts_iff.mp member
  obtain ⟨sheet, sheets, done⟩ := exists_of_mem_right saved among
  obtain ⟨origin, origins, held⟩ := Sheet.exists_origin_of_save done entries
  rw [holds] at held
  have unmarked : origin.2.isMarkup = false :=
    Bool.eq_false_iff.mpr fun marked => plain ⟨sheet, sheets, origin, origins, marked⟩
  rw [CellValue.isMarkup_of_saved? held unmarked] at markup
  cases markup

theorem exists_countable (fits : wb.save.toOption.any (fun book => decide book.Countable) = true) :
    ∃ book, wb.save = .ok book ∧ book.Countable := by
  cases done : wb.save with
  | error e =>
    rw [done] at fits
    cases fits
  | ok book =>
    rw [done] at fits
    exact ⟨book, rfl, of_decide_eq_true fits⟩

/-- The sheets that reading gives after saving, without a look at the worksheet parts. -/
def copied? (wb : Workbook) : Option (List Sheet) := do
  let book ← wb.save.toOption
  let read ← SavedBook.reading? book.texts
  if book.Countable then (book.sheets.mapM (SavedSheet.load read)).toOption else none

theorem load_of_copied? {sheets : List Sheet} (filled : wb.sheets ≠ [])
    (found : wb.copied? = some sheets) (path : String) :
    (wb.save.bind fun book => book.load path) = .ok { sheets } := by
  obtain ⟨book, saved, found⟩ := Option.bind_eq_some_iff.mp found
  obtain ⟨read, isRead, found⟩ := Option.bind_eq_some_iff.mp found
  have done := ok_of_toOption saved
  split at found
  · rename_i counted
    rw [done]
    show book.load path = _
    rw [SavedBook.load_eq (sound_of_save filled done counted), isRead]
    exact congrArg (Except.map fun sheets : List Sheet => ({ sheets } : Workbook))
      (ok_of_toOption found)
  · cases found

/-- Where no text is taken for markup each text is read by itself. -/
theorem load_eq_ok_iff_of_plain (filled : wb.sheets ≠ []) (plain : ¬ wb.HasMarkup)
    (done : wb.save = .ok book) (counted : book.Countable) :
    book.load path = .ok back ↔ back.active = 0 ∧ List.Forall₂ (fun saved sheet =>
      SavedSheet.load (fun text => some (SavedBook.readPlain text)) saved = .ok sheet)
        book.sheets back.sheets := by
  obtain ⟨read, isRead, alone⟩ :=
    SavedBook.exists_reading?_of_plain (any_isMarkup_of_save filled plain done)
  have same : ∀ saved ∈ book.sheets, saved.load read =
      saved.load fun text => some (SavedBook.readPlain text) := by
    intro saved member
    refine SavedSheet.load_congr fun e among => SavedCell.value?_congr fun s holds => ?_
    exact alone s (SavedBook.mem_texts_iff.mpr ⟨saved, member, e, among, holds⟩)
  rw [SavedBook.load_eq_ok_iff (sound_of_save filled done counted), isRead]
  simp only [Option.some.injEq, exists_eq_left']
  refine and_congr_right fun _ => ⟨fun each => ?_, fun each => ?_⟩
  · exact imp_of_mem each fun saved member sheet loads => (same saved member).symm.trans loads
  · exact imp_of_mem each fun saved member sheet loads => (same saved member).trans loads

theorem reread_of_load (filled : wb.sheets ≠ []) (plain : ¬ wb.HasMarkup)
    (done : wb.save = .ok book) (counted : book.Countable) (loads : book.load path = .ok back) :
    back.active = 0 ∧ List.Forall₂ Sheet.Reread wb.sheets back.sheets := by
  obtain ⟨saved, -, -⟩ := (save_eq_ok_iff filled).mp done
  obtain ⟨active, loaded⟩ := (load_eq_ok_iff_of_plain filled plain done counted).mp loads
  exact ⟨active, forall₂_trans saved loaded SavedSheet.reread_of_load_plain⟩

theorem exists_load_of_save (filled : wb.sheets ≠ []) (plain : ¬ wb.HasMarkup)
    (done : wb.save = .ok book) (counted : book.Countable) : ∃ back, book.load path = .ok back := by
  obtain ⟨sheets, loads⟩ : ∃ sheets, List.Forall₂ (fun saved sheet =>
      SavedSheet.load (fun text => some (SavedBook.readPlain text)) saved = .ok sheet)
      book.sheets sheets := by
    refine ⟨book.sheets.map fun saved => { saved with
      cells := saved.cells.filterMapValues
        (SavedCell.value? fun text => some (SavedBook.readPlain text)) }, ?_⟩
    rw [List.forall₂_map_right_iff, List.forall₂_same]
    intro stored _
    exact SavedSheet.load_eq_ok_iff.2
      ⟨fun e _ => SavedSheet.isSome_value?_plain e.2, rfl, rfl, rfl⟩
  exact ⟨{ sheets }, (load_eq_ok_iff_of_plain filled plain done counted).mpr ⟨rfl, loads⟩⟩

end Workbook

end ReportSheets
