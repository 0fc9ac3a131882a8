import ReportSheets.Proofs.Outcome
import ReportSheets.Proofs.Sheet.SortedMap
import ReportSheets.Proofs.Workbook.Worksheet
import ReportSheets.Template.Import

namespace ReportSheets

namespace SavedCell

def shown? (read : String → Option String) : SavedCell → Option CellValue
  | .text s => (read s).map .text
  | .number n => some (.number n)
  | .bool b => some (.bool b)
  | .formula _ => some (.number .zero)

def formulaText : SavedCell → List Char
  | .formula f => f.toList
  | _ => []

def formula? (cell : SavedCell) : Option CellValue :=
  if cell.formulaText = [] then none
  else some (.formula
    (String.ofList ((Text.after? ['='] cell.formulaText).getD cell.formulaText)))

variable {read other : String → Option String} {cell : SavedCell}

theorem value?_eq_or : cell.value? read = cell.formula?.or (cell.shown? read) := by
  cases cell with
  | formula f =>
    simp only [value?, formula?, formulaText, String.toList_eq_nil_iff]
    split <;> rfl
  | _ => rfl

theorem isSome_value?_iff : (cell.value? read).isSome ↔ (cell.shown? read).isSome := by
  cases cell with
  | formula f =>
    rw [value?]
    split <;> exact iff_of_true rfl rfl
  | _ => rfl

end SavedCell

namespace Template

open Xml Packed
open Text (natural byteText)

variable {α : Type} {texts : List String} {table : List (List Char)} {saved : SavedSheet}
  {entry : CellAddress × SavedCell}

theorem row_le_of_before {a b : CellAddress} (before : KeyOrder.before a b = true) :
    a.row ≤ b.row := by
  rcases of_decide_eq_true before with above | ⟨same, -⟩
  · exact Nat.le_of_lt above
  · exact Nat.le_of_eq same

theorem withinRows_eq_self {cells : List (CellAddress × α)} (ordered : InKeyOrder cells)
    (inSheet : ∀ e ∈ cells, e.1.InBounds) : withinRows cells = cells := by
  rw [withinRows]
  split
  · rename_i first last begins ends
    obtain ⟨more, rfl⟩ := List.head?_eq_some_iff.mp begins
    obtain ⟨front, split⟩ := List.getLast?_eq_some_iff.mp ends
    refine List.filter_eq_self.mpr fun e member => ?_
    have fromFirst : first.1.row ≤ e.1.row := by
      rcases List.mem_cons.mp member with rfl | later
      · exact Nat.le_refl _
      · exact row_le_of_before ((List.pairwise_cons.mp ordered).1 e later)
    have upToLast : e.1.row ≤ last.1.row := by
      rw [InKeyOrder, split] at ordered
      rw [split] at member
      rcases List.mem_append.mp member with earlier | same
      · exact row_le_of_before ((List.pairwise_append.mp ordered).2.2 e earlier last (by simp))
      · rw [List.mem_singleton.mp same]
    have column : e.1.col ≤ maxColumn :=
      Nat.le_trans (inSheet e member).2 (by decide)
    simp [fromFirst, upToLast, column]
  · rename_i never
    cases cells with
    | nil => rfl
    | cons first more => exact absurd (List.getLast?_cons) (never first _ rfl)

def typeText : SavedCell → Option (List Char)
  | .text _ => some ['s']
  | .bool _ => some ['b']
  | .number _ | .formula _ => none

theorem attributeWhere_cellType (entry : CellAddress × SavedCell) :
    attributeWhere (· == ['t']) (cellContent entry) = some (typeText entry.2) := by
  rw [cellContent, Name.attributeWhere_bytes _ (apart_cell entry),
    List.find?_cons_of_neg (by exact (by decide : ¬ (byteText placeName.text == ['t']) = true))]
  obtain ⟨address, cell⟩ := entry
  cases cell <;> rfl

theorem cellValue?_written (counted : ∀ s, entry.2 = .text s → texts.idxOf s ≤ maxIndex) :
    cellValue? table (cellContent entry) .none (partsBy .value (fun _ => .formula) texts entry.2) =
      (entry.2.shown? (SavedBook.readBy texts table)).map .found := by
  have type := attributeWhere_cellType entry
  obtain ⟨address, cell⟩ := entry
  cases cell with
  | text s =>
    have shared : (some ['s']).map String.ofList = some "s" := rfl
    simp only [partsBy, cellValue?, partValue?, type, typeText, typedValue?, shared,
      Option.bind_eq_bind, Option.bind_some, index?_natural (counted s rfl), Option.getD_some,
      SavedCell.shown?, SavedBook.readBy, Option.bind_fun_some, Option.map_map]
    rfl
  | number n =>
    simp only [partsBy, cellValue?, partValue?, type, typeText, typedValue?, Option.map_none,
      Option.bind_eq_bind, Option.bind_some, Binary64.read?_text]
    rfl
  | bool b =>
    simp only [partsBy, cellValue?, partValue?, type, typeText]
    cases b <;> rfl
  | formula f =>
    have zero : Binary64.read? ['0'] = some .zero := by decide
    simp only [partsBy, cellValue?, partValue?, type, typeText, typedValue?, Option.map_none,
      Option.bind_eq_bind, Option.bind_some, zero]
    rfl

def Counted (texts : List String) (saved : SavedSheet) : Prop :=
  ∀ e ∈ saved.cells.entries, ∀ s, e.2 = .text s → texts.idxOf s ≤ maxIndex

def worksheetEvents (texts : List String) (saved : SavedSheet) : List Event × Bool :=
  (.text (some ['\n']) :: (worksheet texts saved).events, false)

theorem values?_worksheet (table : List (List Char)) (sound : saved.Sound)
    (counted : Counted texts saved) :
    values? table (worksheetEvents texts saved) = saved.cells.entries.mapM fun e =>
      (e.2.shown? (SavedBook.readBy texts table)).map fun value => (e.1, value) := by
  have written := writtenCells?_worksheet texts sound fun e member =>
    finds_of_takes takes_values (sound.formulas e member)
  have found : ∀ e ∈ saved.cells.entries,
      ((cellValue? table (cellContent e) .none
        (partsBy .value (fun _ => .formula) texts e.2)).map fun value => (e.1, value)) =
          ((e.2.shown? (SavedBook.readBy texts table)).map fun value => (e.1, value)).map
            fun cell => (cell.1, FoundValue.found cell.2) := by
    intro e member
    rw [cellValue?_written (counted e member), Option.map_map, Option.map_map]
    rfl
  have each := mapM_eq_map saved.cells.entries found
  rw [values?, worksheetEvents, written]
  simp only [Option.bind_eq_bind, Option.bind_some, List.mapM_map, writtenCell, Function.comp_def,
    each]
  cases shown : saved.cells.entries.mapM fun e =>
    (e.2.shown? (SavedBook.readBy texts table)).map fun value => (e.1, value) with
  | none => rfl
  | some cells =>
    have made : (saved.cells.filterMapValues
        (SavedCell.shown? (SavedBook.readBy texts table))).entries = cells :=
      (mapM_eq_some_iff.mp shown).2
    have ordered : InKeyOrder (cells.map fun cell => (cell.1, FoundValue.found cell.2)) := by
      rw [InKeyOrder, List.pairwise_map, ← made]
      exact (saved.cells.filterMapValues _).inOrder
    have inSheet : ∀ e ∈ cells.map fun cell => (cell.1, FoundValue.found cell.2), e.1.InBounds := by
      intro e member
      obtain ⟨cell, among, rfl⟩ := List.mem_map.mp member
      rw [← made] at among
      obtain ⟨origin, stored, place, -⟩ := SortedMap.exists_of_mem_filterMapValues among
      exact place ▸ sound.cells origin stored
    simp only [Option.map_some, Option.bind_some, List.filter_map, Function.comp_def,
      List.filter_true, withinRows_eq_self ordered inSheet, List.filterMap_map]
    exact congrArg some List.filterMap_some

theorem formulas?_worksheet (texts : List String) (sound : saved.Sound) :
    formulas? (worksheetEvents texts saved) =
      some (saved.cells.entries.map fun e => (e.1, e.2.formulaText)) := by
  have written := writtenCells?_worksheet texts sound fun e member =>
    finds_of_takes takes_formulas (sound.formulas e member)
  have alone : isShared (byteText (formulaName.tag [])) = false := by
    rw [isShared, Name.attributeWhere_bytes _ (by decide)]
    rfl
  rw [formulas?, worksheetEvents, written, Option.bind_some]
  generalize saved.cells.entries = entries
  induction entries with
  | nil => rfl
  | cons entry entries ih =>
    have text : cellFormula? [] entry.1 [] (partsBy (fun _ => .value)
        (.formula (byteText (formulaName.tag []))) texts entry.2) =
          some (entry.2.formulaText, []) := by
      obtain ⟨address, cell⟩ := entry
      cases cell with
      | formula f => simp [partsBy, cellFormula?, alone, SavedCell.formulaText]
      | _ => rfl
    rw [List.map_cons, cellFormulas?, writtenCell, text]
    simp only [Option.bind_eq_bind, Option.bind_some, ih]
    rfl

theorem formulasOf_worksheet (texts : List String) (sound : saved.Sound) :
    formulasOf (worksheetEvents texts saved) =
      (saved.cells.filterMapValues SavedCell.formula?).entries := by
  have ordered : InKeyOrder (saved.cells.entries.map fun e => (e.1, e.2.formulaText)) := by
    rw [InKeyOrder, List.pairwise_map]
    exact saved.cells.inOrder
  have inSheet : ∀ e ∈ saved.cells.entries.map fun e => (e.1, e.2.formulaText), e.1.InBounds := by
    intro e member
    obtain ⟨origin, among, rfl⟩ := List.mem_map.mp member
    exact sound.cells origin among
  rw [formulasOf, formulas?_worksheet texts sound, Option.getD_some]
  simp only [withinRows_eq_self (ordered.sublist List.filter_sublist)
    fun e member => inSheet e (List.filter_sublist.subset member)]
  show _ = saved.cells.entries.filterMap _
  generalize saved.cells.entries = entries
  induction entries with
  | nil => rfl
  | cons entry entries ih =>
    rw [List.map_cons, List.filter_cons, List.filterMap_cons, ← ih, SavedCell.formula?]
    by_cases none : entry.2.formulaText = []
    · simp [none]
    · simp [none]

theorem mergedRanges?_merges {merged : List MergedRange} {more : List Event}
    (inBounds : ∀ r ∈ merged, r.first.InBounds ∧ r.last.InBounds) :
    mergedRanges? (Element.eventsAll (merged.map merge) ++
      (Name.ofText "mergeCells" rfl).finish :: more) = some merged := by
  induction merged with
  | nil =>
    show mergedRanges? ((Name.ofText "mergeCells" rfl).finish :: more) = some []
    rw [Name.finish, mergedRanges?, if_pos (by decide)]
  | cons r merged ih =>
    obtain ⟨⟨first, last⟩, inBounds⟩ := List.forall_mem_cons.mp inBounds
    have mark : IsBare [':'] := by simp [IsBare, Xml.marks]
    have reference : IsBare (r.first.text ++ ':' :: r.last.text) :=
      (IsBare.address r.first).append (mark.append (.address r.last))
    rw [List.map_cons, Element.eventsAll_cons, merge, Element.events, List.cons_append, Name.start,
      mergedRanges?, if_pos (by rw [Name.elementName_bytes]; decide),
      Name.attributeWhere_bytes _ (by exact (by decide : ["ref".toList].Nodup)),
      List.find?_cons_of_pos (by rfl), Option.map_some,
      reference.escape_byteText, List.singleton_append, Name.finish, mergedRanges?,
      if_neg (by decide), ih inBounds]
    simp [range?_text first last]

theorem merges?_worksheet (texts : List String) (sound : saved.Sound) :
    merges? (worksheetEvents texts saved).2 (worksheetEvents texts saved).1 =
      some saved.layout.merged := by
  let told := (Name.ofText "worksheet" rfl).start [(space, Package.mainSpace.toList)] ::
    (Element.eventsAll (columnPart saved) ++ (Name.ofText "sheetData" rfl).start [] ::
      (Element.eventsAll ((sheetRows saved).map (Packed.row texts)) ++
        [(Name.ofText "sheetData" rfl).finish]))
  have before : ∀ tag ∈ tagsOf told, tag ≠ "mergeCells".toList := by
    have inColumns : ∀ tag ∈ ["cols".toList, "col".toList], tag ≠ "mergeCells".toList := by decide
    have inData : ∀ tag ∈ dataNames, tag ≠ "mergeCells".toList := by decide
    have ends : tagsOf [(Name.ofText "sheetData" rfl).finish] = [] := rfl
    simp only [told, Name.start, tagsOf_start, tagsOf_append, Element.tagsOf_eventsAll,
      Name.elementName_bytes, ends, List.append_nil, List.forall_mem_cons, List.forall_mem_append]
    exact ⟨by decide, fun tag member => inColumns tag (names_columnPart saved tag member), by decide,
      fun tag member => inData tag (names_rows texts _ tag member)⟩
  have whole : (worksheet texts saved).events =
      told ++ (Element.eventsAll (mergePart saved) ++ [(Name.ofText "worksheet" rfl).finish]) := by
    rw [events_worksheet]
    simp [told]
  show merges? false (worksheet texts saved).events = _
  rw [whole, merges?_skip before, mergePart, unlessEmpty]
  split
  · rename_i empty
    rw [List.isEmpty_iff, List.map_eq_nil_iff] at empty
    rw [empty]
    rfl
  · rw [Element.eventsAll_cons, Element.events_around, Name.start, merges?,
      if_pos (by rw [Name.elementName_bytes]; decide), mergedRanges?_merges sound.merged]
    rfl

end Template

end ReportSheets
