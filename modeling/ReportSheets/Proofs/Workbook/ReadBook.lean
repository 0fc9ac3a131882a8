import ReportSheets.Proofs.Workbook.ReadCells
import ReportSheets.Proofs.Workbook.ReadLayouts

namespace ReportSheets

open Packed Xml

structure SavedBook.Sound (book : SavedBook) : Prop where
  sheets : ∀ saved ∈ book.sheets, saved.Sound
  names : (book.sheets.map (·.name)).Nodup
  counted : book.Countable

namespace SavedSheet

variable {texts : List String} {table : List (List Char)} {saved : SavedSheet} {sheet : Sheet}
  {read : String → Option String}

def bare (sheet : Sheet) : Sheet := { sheet with layout := { merged := sheet.layout.merged } }

theorem filter_canCarry (sound : saved.Sound) :
    saved.layout.merged.filter Template.canCarry = saved.layout.merged := by
  refine List.filter_eq_self.mpr fun r member => ?_
  obtain ⟨⟨-, first⟩, ⟨-, last⟩⟩ := sound.merged r member
  rw [CellAddress.maxCol] at first last
  rw [Template.canCarry, Template.maxColumn, Bool.and_eq_true, decide_eq_true_eq,
    decide_eq_true_eq]
  omega

/-- The cells and the merged ranges of a worksheet part make the sheet that was saved. -/
theorem read_worksheet {package : Package} {outline : Template.Outline} (sound : saved.Sound)
    (counted : Template.Counted texts saved)
    (found : ((outline.sheets.find? fun entry => entry.name == saved.name).bind fun entry =>
      (package.partFolded? entry.part).bind Archive.Content.events?) =
        some (Template.worksheetEvents texts saved)) :
    Template.sheetOf package outline saved.name =
      (saved.load (SavedBook.readBy texts outline.texts)).map bare := by
  let read := SavedBook.readBy texts outline.texts
  have values := Template.values?_worksheet outline.texts sound counted
  have formulas := Template.formulasOf_worksheet texts sound
  have merges := Template.merges?_worksheet texts sound
  have each : (∀ e ∈ saved.cells.entries,
      ((e.2.shown? read).map fun value => (e.1, value)).isSome) ↔
        ∀ e ∈ saved.cells.entries, (e.2.value? read).isSome := by
    simp only [Option.isSome_map, SavedCell.isSome_value?_iff]
  simp only [Template.sheetOf, found, values]
  by_cases all : ∀ e ∈ saved.cells.entries, (e.2.value? read).isSome
  · have shown := mapM_eq_some_iff.mpr ⟨each.mpr all, rfl⟩
    have loads : saved.load read =
        .ok ⟨saved.name, saved.cells.filterMapValues (SavedCell.value? read), saved.layout⟩ :=
      load_eq_ok_iff.mpr ⟨all, rfl, rfl, rfl⟩
    have cells : (saved.cells.entries.filterMap fun e =>
        (e.2.shown? read).map fun value => (e.1, value)) =
          (saved.cells.filterMapValues (SavedCell.shown? read)).entries := rfl
    have alike : (fun cell : SavedCell => cell.formula?.or (cell.shown? read)) =
        SavedCell.value? read := funext fun cell => SavedCell.value?_eq_or.symm
    rw [loads, shown, cells]
    simp only [formulas, merges, SortedMap.ofList_append_filterMapValues, alike,
      filter_canCarry sound]
    rfl
  · rw [load_eq_error all, mapM_eq_none (mt each.mp all)]
    rfl

theorem measured_bare (loads : saved.load read = .ok sheet) :
    (bare sheet).measured (some (Package.measures saved)) = sheet := by
  obtain ⟨-, -, -, layout⟩ := load_eq_ok_iff.mp loads
  obtain ⟨name, cells, _⟩ := sheet
  subst layout
  rfl

end SavedSheet

namespace SavedBook

variable {book : SavedBook} {items : List (List Char)} {path : String}

theorem mem_addText {texts : List String} {text other : String} :
    other ∈ addText texts text ↔ other ∈ texts ∨ other = text := by
  rw [addText]
  split
  · rename_i known
    exact ⟨.inl, fun either => either.elim id fun same => same ▸ known⟩
  · simp

theorem mem_foldl_addText {texts more : List String} {text : String} :
    text ∈ more.foldl addText texts ↔ text ∈ texts ∨ text ∈ more := by
  induction more generalizing texts with
  | nil => simp
  | cons first more ih => rw [List.foldl_cons, ih, mem_addText, List.mem_cons, or_assoc]

theorem mem_texts_iff {text : String} :
    text ∈ book.texts ↔ ∃ saved ∈ book.sheets, ∃ e ∈ saved.cells.entries, e.2 = .text text := by
  have holds : ∀ cell : SavedCell, cell.text? = some text ↔ cell = .text text := by
    intro cell
    cases cell <;> simp [SavedCell.text?]
  simp only [texts, mem_foldl_addText, List.not_mem_nil, false_or, List.mem_flatMap,
    List.mem_filterMap, holds]

theorem nodup_foldl_addText {texts more : List String} (distinct : texts.Nodup) :
    (more.foldl addText texts).Nodup := by
  induction more generalizing texts with
  | nil => exact distinct
  | cons text more ih =>
    refine ih ?_
    rw [addText]
    split
    · exact distinct
    · rename_i fresh
      exact List.nodup_append.mpr ⟨distinct, List.nodup_singleton text, by
        rintro a among b only rfl
        exact fresh (List.mem_singleton.mp only ▸ among)⟩

theorem nodup_texts (book : SavedBook) : book.texts.Nodup := nodup_foldl_addText List.nodup_nil

/-- Where no text is taken for markup each text is read by itself. -/
theorem exists_reading?_of_plain (plain : book.texts.any isMarkup = false) :
    ∃ read, reading? book.texts = some read ∧
      ∀ text ∈ book.texts, read text = some (readPlain text) := by
  refine ⟨_, by rw [reading?, items?_of_plain plain, Option.map_some], fun text member => ?_⟩
  have place := List.getElem?_idxOf (l := book.texts) member
  rw [readBy, List.getElem?_map, place]
  rfl

theorem Sound.countedTexts (sound : book.Sound) {saved : SavedSheet} (member : saved ∈ book.sheets) :
    Template.Counted book.texts saved := by
  intro e among text holds
  have listed : text ∈ book.texts := mem_texts_iff.mpr ⟨saved, member, e, among, holds⟩
  have place := List.idxOf_lt_length_of_mem listed
  have counted := sound.counted
  rw [Countable] at counted
  omega

def outline (book : SavedBook) (items : List (List Char)) : Template.Outline :=
  ⟨items, (numbered book).map fun entry => ⟨entry.1.name, sheetFile entry.2⟩⟩

theorem outline_names : (book.outline items).sheets.map Template.SheetEntry.name =
    book.sheets.map (·.name) := by
  conv_rhs => rw [← List.zipIdx_map_fst 1 book.sheets, List.map_map]
  rw [outline, List.map_map]
  rfl

theorem worksheetEvents_package (sound : book.Sound) {entry : SavedSheet × Nat}
    (member : entry ∈ numbered book) :
    (((book.outline items).sheets.find? fun found => found.name == entry.1.name).bind fun found =>
      (book.package.partFolded? found.part).bind Archive.Content.events?) =
        some (Template.worksheetEvents book.texts entry.1) := by
  have names : ((book.outline items).sheets.map Template.SheetEntry.name).Nodup := by
    rw [outline_names]
    exact sound.names
  let listing : Template.SheetEntry := ⟨entry.1.name, sheetFile entry.2⟩
  have listed : listing ∈ (book.outline items).sheets :=
    List.mem_map_of_mem (f := fun entry : SavedSheet × Nat =>
      (⟨entry.1.name, sheetFile entry.2⟩ : Template.SheetEntry)) member
  have found : ((book.outline items).sheets.find? fun found => found.name == entry.1.name) =
      some listing := find?_of_nodup Template.SheetEntry.name names listed
  have part := partFolded?_part (mem_parts_of_mem_numbered member)
  rw [found, Option.bind_some, part, Option.bind_some, Archive.Content.events?_document]
  rfl

theorem filter_measures {saved : SavedSheet} {sheets : List SavedSheet}
    (apart : saved.name ∉ sheets.map (·.name)) :
    ((saved :: sheets).map fun saved => (saved.name, Package.measures saved)).filter
        (fun entry => entry.1 != saved.name) =
      sheets.map fun saved => (saved.name, Package.measures saved) := by
  rw [List.map_cons, List.filter_cons_of_neg (by simp), List.filter_eq_self]
  intro entry member
  obtain ⟨other, among, rfl⟩ := List.mem_map.mp member
  exact bne_iff_ne.mpr fun same => apart (same ▸ List.mem_map_of_mem among)

/-- One sheet after another takes its own layout out of the list. -/
theorem sheetsOf_package {outline : Template.Outline} {sheets : List SavedSheet}
    {read : String → Option String} (distinct : (sheets.map (·.name)).Nodup)
    (each : ∀ saved ∈ sheets, Template.sheetOf book.package outline saved.name =
      (saved.load read).map SavedSheet.bare) :
    Template.sheetsOf book.package outline
      (sheets.map fun saved => (saved.name, Package.measures saved)) (sheets.map (·.name)) =
        sheets.mapM (SavedSheet.load read) := by
  induction sheets with
  | nil => rfl
  | cons saved sheets ih =>
    obtain ⟨first, each⟩ := List.forall_mem_cons.mp each
    rw [List.map_cons, List.nodup_cons] at distinct
    have own : Package.lastOf? ((saved :: sheets).map fun saved =>
        (saved.name, Package.measures saved)) saved.name = some (Package.measures saved) := by
      refine Package.lastOf?_eq_some_of_mem ?_ List.mem_cons_self
      rw [List.map_map]
      exact List.nodup_cons.mpr distinct
    rw [List.map_cons (f := SavedSheet.name), Template.sheetsOf_cons, filter_measures distinct.1,
      own, ih distinct.2 each, first, List.mapM_cons]
    cases loads : saved.load read with
    | error e => rfl
    | ok sheet =>
      cases sheets.mapM (SavedSheet.load read) with
      | error e => rfl
      | ok more =>
        show Except.ok ((SavedSheet.bare sheet).measured _ :: more) = Except.ok (sheet :: more)
        rw [SavedSheet.measured_bare loads]

/-- The file of a saved workbook is read back sheet by sheet, each text as the item of its number. -/
theorem load_eq (sound : book.Sound) :
    book.load path = match reading? book.texts with
      | none => .error (.templateUnreadable path)
      | some read => (book.sheets.mapM (SavedSheet.load read)).map fun sheets => { sheets } := by
  rw [load, Package.workbook, Template.outline?_package, reading?]
  cases items? book.texts with
  | none => rfl
  | some items =>
    have each : ∀ saved ∈ book.sheets,
        Template.sheetOf book.package (book.outline items) saved.name =
          (saved.load (readBy book.texts items)).map SavedSheet.bare := by
      intro saved member
      rw [← List.zipIdx_map_fst 1 book.sheets] at member
      obtain ⟨entry, listed, rfl⟩ := List.mem_map.mp member
      have member := List.fst_mem_of_mem_zipIdx listed
      exact SavedSheet.read_worksheet (sound.sheets entry.1 member) (sound.countedTexts member)
        (worksheetEvents_package sound listed)
    have sheets : Template.sheetsOf book.package (book.outline items)
        (book.sheets.map fun saved => (saved.name, Package.measures saved))
        ((book.outline items).sheets.map (·.name)) =
          book.sheets.mapM (SavedSheet.load (readBy book.texts items)) := by
      rw [outline_names]
      exact sheetsOf_package sound.names each
    rw [outline] at sheets
    simp only [Option.map_some, Package.dimensions_package sound.sheets, bind, Except.bind, sheets]
    cases book.sheets.mapM (SavedSheet.load (readBy book.texts items)) <;> rfl

variable {wb : Workbook}

theorem load_eq_ok_iff (sound : book.Sound) :
    book.load path = .ok wb ↔
      wb.active = 0 ∧ ∃ read, reading? book.texts = some read ∧
        List.Forall₂ (fun saved sheet => saved.load read = .ok sheet) book.sheets wb.sheets := by
  rw [load_eq sound]
  cases reading? book.texts with
  | none => simp
  | some read =>
    simp only [Option.some.injEq, exists_eq_left', ← mapM_eq_ok_iff]
    obtain ⟨sheets, active⟩ := wb
    cases book.sheets.mapM (SavedSheet.load read) with
    | error e => simp [Except.map]
    | ok found => simp [Except.map, eq_comm, and_comm]

end SavedBook

end ReportSheets
