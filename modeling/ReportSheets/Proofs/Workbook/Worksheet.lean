import ReportSheets.Proofs.Number.Shortest
import ReportSheets.Proofs.Template.References
import ReportSheets.Proofs.Workbook.Loaded
import ReportSheets.Proofs.Workbook.Rows

namespace ReportSheets

structure SavedSheet.Sound (saved : SavedSheet) : Prop where
  cells : ∀ e ∈ saved.cells.entries, e.1.InBounds
  formulas : ∀ e ∈ saved.cells.entries, ∀ f, e.2 = .formula f → '\r' ∉ f.toList
  merged : ∀ r ∈ saved.layout.merged, r.first.InBounds ∧ r.last.InBounds
  columns : ∀ c ∈ saved.layout.columns, c.first ≤ c.last ∧ c.last ≤ CellAddress.maxCol
  rows : ∀ e ∈ saved.layout.rowHeights.entries, e.1 ≤ CellAddress.maxRow

theorem Binary64.return_not_mem_text (n : Binary64) : '\r' ∉ n.text := by
  cases n with
  | nan => decide
  | infinite negative => cases negative <;> decide
  | finite negative m =>
    have digits : ∀ {text : List Char}, Text.IsDigits text → '\r' ∉ text := fun shape =>
      shape.not_mem (by decide)
    have shape := (reads_unsignedText m).1
    have plain : '\r' ∉ unsignedText (.finite false m) := by
      generalize unsignedText (.finite false m) = text at shape
      cases shape with
      | whole shape => exact digits shape
      | fraction shape after =>
        intro member
        rcases List.mem_append.mp member with first | last
        · exact digits shape first
        · rcases List.mem_cons.mp last with point | last
          · exact absurd point (by decide)
          · exact digits after last
    rw [text]
    cases negative
    · exact plain
    · intro member
      rcases List.mem_append.mp member with sign | later
      · exact absurd sign (by decide)
      · exact plain later

theorem Text.return_not_mem_natural (n : Nat) : '\r' ∉ natural n := fun member =>
  absurd (isDigit_of_mem_natural member) (by decide)

namespace Template

open Xml Packed
open Text (natural byteText)

variable {α : Type} {reader : PartReader α} {more rest : List Event} {part : α} {text : List Char}

theorem cellParts_start {content : List Char} (encoding : Text.Encoding)
    (read : reader.read? content rest = some (part, more)) :
    cellParts reader (.start content encoding :: rest) =
      (cellParts reader more).map fun (parts, after) => (part :: parts, after) := by
  rw [cellParts]
  split
  · rename_i none
    rw [none] at read
    cases read
  · rename_i found
    rw [found] at read
    cases read
    rfl

theorem cellParts_holding {name : Name} (plain : '\r' ∉ text) (rest : List Event)
    (read : ∀ told, Tells told text → reader.read? (byteText (name.tag []))
      (told ++ name.finish :: rest) = some (part, rest)) :
    Template.cellParts reader ((Element.holding name [] text).events ++ rest) =
      (Template.cellParts reader rest).map fun (parts, after) => (part :: parts, after) := by
  have tells := (textEvents_escape text).2 plain
  rw [Element.events, List.cons_append, List.append_assoc, List.singleton_append, Name.start]
  exact cellParts_start .utf8 (read _ tells)

/-- What a reader makes of the elements that hold the value and the formula of a cell. -/
structure Takes (reader : PartReader α) (ofValue ofFormula : List Char → α) : Prop where
  value {text : List Char} (plain : '\r' ∉ text) (rest : List Event) :
    Template.cellParts reader ((Element.holding valueName [] text).events ++ rest) =
      (Template.cellParts reader rest).map fun (parts, after) => (ofValue text :: parts, after)
  formula {text : List Char} (plain : '\r' ∉ text) (rest : List Event) :
    Template.cellParts reader ((Element.holding formulaName [] text).events ++ rest) =
      (Template.cellParts reader rest).map fun (parts, after) => (ofFormula text :: parts, after)

theorem takes_values : Takes valueReader .value fun _ => .formula where
  value plain rest := cellParts_holding plain rest fun told tells => by
    simp only [valueReader, valuePart?, Name.elementName_bytes, Name.tagName_bytes]
    rw [if_neg (by decide), if_pos (by decide), Name.finish, tells.textUntil, Option.map_some]
  formula plain rest := cellParts_holding plain rest fun told tells => by
    simp only [valueReader, valuePart?, Name.elementName_bytes, Name.tagName_bytes]
    rw [if_neg (by decide), if_neg (by decide), if_pos (by decide), Name.finish, tells.pastEnd,
      pastEnd, if_pos rfl, Option.map_some]

theorem takes_formulas : Takes formulaReader (fun _ => .value)
    (.formula (byteText (formulaName.tag []))) where
  value plain rest := cellParts_holding plain rest fun told tells => by
    simp only [formulaReader, formulaPart?, Name.elementName_bytes, Name.tagName_bytes]
    rw [if_pos (by decide), Name.finish, tells.pastEnd, pastEnd, if_pos rfl, Option.map_some]
  formula plain rest := cellParts_holding plain rest fun told tells => by
    simp only [formulaReader, formulaPart?, Name.elementName_bytes, Name.tagName_bytes]
    rw [if_neg (by decide), if_pos (by decide), Name.finish, tells.textUntil, Option.map_some]

structure Finds (reader : PartReader α) (texts : List String) (found : SavedCell → List α)
    (cell : SavedCell) : Prop where
  parts : ∀ rest, Template.cellParts reader
    (Element.eventsAll (Packed.cellParts texts cell) ++ cellName.finish :: rest) =
      some (found cell, rest)

def partsBy (ofValue ofFormula : List Char → α) (texts : List String) : SavedCell → List α
  | .text text => [ofValue (natural (texts.idxOf text))]
  | .number number => [ofValue number.text]
  | .bool value => [ofValue [if value then '1' else '0']]
  | .formula formula => [ofFormula formula.toList, ofValue ['0']]

variable {texts : List String} {cell : SavedCell}

theorem cellParts_finish (rest : List Event) :
    Template.cellParts reader (cellName.finish :: rest) = some ([], rest) := by
  rw [Name.finish, Template.cellParts, if_pos (by decide)]

theorem finds_of_takes {ofValue ofFormula : List Char → α} (takes : Takes reader ofValue ofFormula)
    (plain : ∀ f, cell = .formula f → '\r' ∉ f.toList) :
    Finds reader texts (partsBy ofValue ofFormula texts) cell := by
  constructor
  intro rest
  have one : ∀ {text : List Char}, '\r' ∉ text → Template.cellParts reader
      (Element.eventsAll [.holding valueName [] text] ++ cellName.finish :: rest) =
        some ([ofValue text], rest) := by
    intro text plain
    rw [Element.eventsAll_cons, Element.eventsAll, List.nil_append, takes.value plain,
      cellParts_finish]
    rfl
  cases cell with
  | text text => exact one (Text.return_not_mem_natural _)
  | number number => exact one number.return_not_mem_text
  | bool value => exact one (by cases value <;> decide)
  | formula formula =>
    rw [Packed.cellParts, Element.eventsAll_cons, takes.formula (plain formula rfl),
      one (by decide)]
    rfl

def cellContent (entry : CellAddress × SavedCell) : List Char :=
  byteText (cellName.tag ((placeName, entry.1.text) :: cellType entry.2))

theorem apart_cell (entry : CellAddress × SavedCell) :
    Apart ((placeName, entry.1.text) :: cellType entry.2) := by
  obtain ⟨address, cell⟩ := entry
  cases cell with
  | text _ => exact (by decide : ["r".toList, "t".toList].Nodup)
  | bool _ => exact (by decide : ["r".toList, "t".toList].Nodup)
  | number _ => exact (by decide : ["r".toList].Nodup)
  | formula _ => exact (by decide : ["r".toList].Nodup)

theorem placeOf?_cellContent {entry : CellAddress × SavedCell} (inBounds : entry.1.InBounds)
    (expected : CellAddress) : placeOf? (cellContent entry) expected = some entry.1 := by
  have place : attributeWhere (· == ['r']) (cellContent entry) = some (some entry.1.text) := by
    rw [cellContent, Name.attributeWhere_bytes _ (apart_cell entry), List.find?_cons_of_pos (by rfl)]
    exact congrArg (fun text => some (some text)) (IsBare.address entry.1).escape_byteText
  rw [placeOf?, place]
  exact address?_text inBounds

def writtenCell (found : SavedCell → List α) (entry : CellAddress × SavedCell) : WrittenCell α :=
  ⟨entry.1, cellContent entry, found entry.2⟩

variable {found : SavedCell → List α} {cells : List (CellAddress × SavedCell)}
  {written : List (WrittenCell α)}

theorem cellsFrom_cells (each : ∀ e ∈ cells, e.1.InBounds ∧ Finds reader texts found e.2)
    (later : ∀ next, cellsFrom reader next rest = some written) (next : CellAddress) :
    cellsFrom reader next (Element.eventsAll (cells.map (Packed.cell texts)) ++ rest) =
      some (cells.map (writtenCell found) ++ written) := by
  induction cells generalizing next with
  | nil => exact later next
  | cons entry cells ih =>
    obtain ⟨inBounds, finds⟩ := each entry List.mem_cons_self
    have others := ih fun e member => each e (List.mem_cons_of_mem entry member)
    have place := placeOf?_cellContent inBounds next
    rw [cellContent] at place
    rw [List.map_cons, Element.eventsAll_cons, Packed.cell, Element.events_around, Name.start,
      cellsFrom,
      if_neg (by rw [Name.elementName_bytes]; decide),
      if_pos (by rw [Name.elementName_bytes]; decide), place]
    have parts := finds.parts (Element.eventsAll (cells.map (Packed.cell texts)) ++ rest)
    split
    · rename_i found left isPlace isParts
      cases isPlace
      rw [parts] at isParts
      cases isParts
      rw [others]
      rfl
    · rename_i never
      exact absurd parts (never _ _ _ rfl)

theorem apart_row {r : Packed.Row} (sound : SoundRow r) : Apart (rowAttributes r) := by
  rcases sound.single with none | ⟨height, one⟩
  · rw [rowAttributes, none]
    exact (by decide : ["r".toList].Nodup)
  · rw [rowAttributes, one]
    exact (by decide : ["r".toList, "ht".toList, "customHeight".toList].Nodup)

theorem rowOf?_tag {r : Packed.Row} (sound : SoundRow r) (expected : Nat) :
    rowOf? (byteText (rowName.tag (rowAttributes r))) expected = some r.row := by
  have small : r.row + 1 < wordSize := by
    have bound := sound.inSheet
    rw [CellAddress.maxRow] at bound
    rw [wordSize]
    omega
  have place : attributeWhere (· == ['r']) (byteText (rowName.tag (rowAttributes r))) =
      some (some (natural (r.row + 1))) := by
    rw [Name.attributeWhere_bytes _ (apart_row sound), rowAttributes, List.find?_cons_of_pos (by rfl)]
    exact congrArg (fun text => some (some text)) (IsBare.natural _).escape_byteText
  rw [rowOf?, place]
  exact row?_natural small

theorem cellsFrom_rows {rows : List Packed.Row}
    (each : ∀ r ∈ rows, SoundRow r ∧ ∀ e ∈ r.cells, e.1.InBounds ∧ Finds reader texts found e.2)
    (later : ∀ next, cellsFrom reader next rest = some written) (next : CellAddress) :
    cellsFrom reader next (Element.eventsAll (rows.map (Packed.row texts)) ++ rest) =
      some ((rows.flatMap Packed.Row.cells).map (writtenCell found) ++ written) := by
  induction rows generalizing next with
  | nil => exact later next
  | cons r rows ih =>
    obtain ⟨sound, cells⟩ := each r List.mem_cons_self
    have others := ih fun r member => each r (List.mem_cons_of_mem _ member)
    have ends : ∀ next, cellsFrom reader next (rowName.finish ::
        (Element.eventsAll (rows.map (Packed.row texts)) ++ rest)) =
          some ((rows.flatMap Packed.Row.cells).map (writtenCell found) ++ written) := by
      intro next
      rw [Name.finish, cellsFrom, if_pos (by decide), others]
    rw [List.map_cons, Element.eventsAll_cons, Packed.row, Element.events_around, Name.start,
      cellsFrom,
      if_pos (by rw [Name.elementName_bytes]; decide), rowOf?_tag sound]
    simp only [cellsFrom_cells cells ends, List.flatMap_cons, List.map_append, List.append_assoc]

theorem sheetData?_skip {told : List Event} {broken : Bool}
    (other : ∀ tag ∈ tagsOf told, tag ≠ "sheetData".toList ∧ tag ≠ "dimension".toList) :
    sheetData? broken true (told ++ rest) = sheetData? broken true rest := by
  induction told with
  | nil => rfl
  | cons event told ih =>
    cases event with
    | start content encoding =>
      rw [tagsOf_start, List.forall_mem_cons] at other
      rw [List.cons_append, sheetData?, if_neg other.1.1, if_neg other.1.2, ih other.2]
    | finish name => exact ih other
    | text content => exact ih other

theorem merges?_skip {told : List Event} {broken : Bool}
    (other : ∀ tag ∈ tagsOf told, tag ≠ "mergeCells".toList) :
    merges? broken (told ++ rest) = merges? broken rest := by
  induction told with
  | nil => rfl
  | cons event told ih =>
    cases event with
    | start content encoding =>
      rw [tagsOf_start, List.forall_mem_cons] at other
      rw [List.cons_append, merges?, if_neg other.1, ih other.2]
    | finish name => exact ih other
    | text content => exact ih other

theorem mem_names_unlessEmpty {name : Name} {content : List Element} {tag : List Char}
    (member : tag ∈ Element.namesAll (unlessEmpty name content)) :
    tag = localName (byteText name.text) ∨ ∃ e ∈ content, tag ∈ e.names := by
  rw [unlessEmpty] at member
  split at member
  · cases member
  · rw [Element.namesAll, Element.namesAll, List.append_nil, Element.names, List.mem_cons,
      Element.namesAll_eq, List.mem_flatMap] at member
    exact member

def dataNames : List (List Char) := ["row".toList, ['c'], ['v'], ['f']]

theorem names_cell (texts : List String) (entry : CellAddress × SavedCell) :
    ∀ tag ∈ (Packed.cell texts entry).names, tag ∈ dataNames := by
  obtain ⟨address, cell⟩ := entry
  cases cell with
  | text _ => exact (by decide : ∀ tag ∈ [['c'], ['v']], tag ∈ dataNames)
  | number _ => exact (by decide : ∀ tag ∈ [['c'], ['v']], tag ∈ dataNames)
  | bool _ => exact (by decide : ∀ tag ∈ [['c'], ['v']], tag ∈ dataNames)
  | formula _ => exact (by decide : ∀ tag ∈ [['c'], ['f'], ['v']], tag ∈ dataNames)

theorem names_rows (texts : List String) (rows : List Packed.Row) :
    ∀ tag ∈ Element.namesAll (rows.map (Packed.row texts)), tag ∈ dataNames := by
  intro tag member
  rw [Element.namesAll_eq, List.flatMap_map, List.mem_flatMap] at member
  obtain ⟨r, -, among⟩ := member
  rw [Packed.row, Element.names, List.mem_cons, Element.namesAll_eq, List.flatMap_map,
    List.mem_flatMap] at among
  rcases among with rfl | ⟨entry, -, inCell⟩
  · decide
  · exact names_cell texts entry tag inCell

theorem flatMap_sheetRows (saved : SavedSheet) :
    (sheetRows saved).flatMap Packed.Row.cells = saved.cells.entries ∧
      (sheetRows saved).flatMap Packed.Row.heights = saved.layout.rowHeights.entries :=
  flatMap_rowsOf (Nat.le_refl _)

theorem sound_of_mem_sheetRows {saved : SavedSheet} (sound : saved.Sound) {r : Packed.Row}
    (member : r ∈ sheetRows saved) : SoundRow r ∧ ∀ e ∈ r.cells, e ∈ saved.cells.entries :=
  sound_of_mem_rowsOf saved.layout.rowHeights.inOrder (fun e among => (sound.cells e among).1)
    sound.rows r member

theorem names_columnPart (saved : SavedSheet) :
    ∀ tag ∈ Element.namesAll (columnPart saved), tag ∈ ["cols".toList, "col".toList] := by
  intro tag member
  rcases mem_names_unlessEmpty member with rfl | ⟨e, among, inside⟩
  · decide
  · obtain ⟨c, -, rfl⟩ := List.mem_map.mp among
    rw [List.mem_singleton.mp inside]
    decide

theorem events_worksheet (texts : List String) (saved : SavedSheet) :
    (worksheet texts saved).events = (Name.ofText "worksheet" rfl).start
        [(space, Package.mainSpace.toList)] ::
      (Element.eventsAll (columnPart saved) ++ (Name.ofText "sheetData" rfl).start [] ::
        (Element.eventsAll ((sheetRows saved).map (Packed.row texts)) ++
          (Name.ofText "sheetData" rfl).finish ::
            (Element.eventsAll (mergePart saved) ++ [(Name.ofText "worksheet" rfl).finish]))) := by
  rw [worksheet, Element.events, Element.eventsAll_append, Element.eventsAll_append,
    List.append_assoc, List.append_assoc, Element.eventsAll_cons, Element.events_around]
  rfl

theorem writtenCells?_worksheet (texts : List String) {saved : SavedSheet} (sound : saved.Sound)
    (finds : ∀ e ∈ saved.cells.entries, Finds reader texts found e.2) :
    writtenCells? reader (.text (some ['\n']) :: (worksheet texts saved).events, false) =
      some (saved.cells.entries.map (writtenCell found)) := by
  have other : ∀ tag ∈ tagsOf (Element.eventsAll (columnPart saved)),
      tag ≠ "sheetData".toList ∧ tag ≠ "dimension".toList := by
    have known : ∀ tag ∈ ["cols".toList, "col".toList],
        tag ≠ "sheetData".toList ∧ tag ≠ "dimension".toList := by decide
    intro tag member
    rw [Element.tagsOf_eventsAll] at member
    exact known tag (names_columnPart saved tag member)
  have each : ∀ r ∈ sheetRows saved,
      SoundRow r ∧ ∀ e ∈ r.cells, e.1.InBounds ∧ Finds reader texts found e.2 := by
    intro r member
    obtain ⟨row, cells⟩ := sound_of_mem_sheetRows sound member
    exact ⟨row, fun e among => ⟨sound.cells e (cells e among), finds e (cells e among)⟩⟩
  have ends : ∀ next more, cellsFrom reader next
      ((Name.ofText "sheetData" rfl).finish :: more) = some [] := by
    intro next more
    rw [Name.finish, cellsFrom, if_neg (by decide), if_pos (by decide)]
  rw [writtenCells?, events_worksheet, sheetData?, Name.start, sheetData?,
    if_neg (by rw [Name.elementName_bytes]; decide),
    if_neg (by rw [Name.elementName_bytes]; decide), sheetData?_skip other, Name.start, sheetData?,
    if_pos (by rw [Name.elementName_bytes]; decide)]
  simp only [cellsFrom_rows each (fun next => ends next _), (flatMap_sheetRows saved).1,
    List.append_nil]

end Template

end ReportSheets
