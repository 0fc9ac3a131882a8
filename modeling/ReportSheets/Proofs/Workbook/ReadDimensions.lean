import ReportSheets.Proofs.Template.Dimensions
import ReportSheets.Proofs.Workbook.Worksheet

namespace ReportSheets.Package

open Xml Packed
open Text (natural)

variable {own : Name} {attributes : List (Name × List Char)} {name : String} {value : List Char}

theorem attribute?_tag (apart : Apart attributes) :
    attribute? name (own.tag attributes) =
      .ok ((attributes.find? fun given => localName given.1.text == name.toList).map (·.2)) := by
  rw [attribute?, Name.attributeWhere_tag own apart]
  cases attributes.find? fun given => localName given.1.text == name.toList with
  | none => rfl
  | some given =>
    have resolved := (Quotes.escape given.2).unescape?
    simp only [Option.map_some, resolved]

theorem carries_tag (own : Name) (name : String) (apart : Apart attributes)
    (found : (attributes.find? fun given => localName given.1.text == name.toList).map (·.2) =
      some value) : Carries name (own.tag attributes) value :=
  attribute?_eq_some_iff.1 (by rw [attribute?_tag apart, found])

theorem counts_natural {content : List Char} {n : Nat} (carries : Carries name content (natural n))
    (counted : n ≤ maxCount) : Counts name content n := by
  refine ⟨natural n, carries, ?_⟩
  have plain : ∀ rest, natural n ≠ '+' :: rest := fun rest signed =>
    absurd (Text.isDigit_of_mem_natural (signed ▸ List.mem_cons_self)) (by decide)
  rw [Text.readCount?, Template.readNatural?_natural]
  · exact Option.filter_some_pos (by exact decide_eq_true counted)
  · exact plain

theorem amounts_text {content : List Char} {n : Binary64} (carries : Carries name content n.text) :
    Amounts name content n := ⟨n.text, carries, n.read?_text⟩

def Give (tags : List (List Char)) (given : List Dimension) : Prop :=
  ∃ found, tags.mapM dimension? = .ok found ∧ found.filterMap id = given

namespace Give

variable {tags later : List (List Char)} {given others : List Dimension}

theorem append (gives : Give tags given) (more : Give later others) :
    Give (tags ++ later) (given ++ others) := by
  obtain ⟨found, reads, rfl⟩ := gives
  obtain ⟨also, readsMore, rfl⟩ := more
  refine ⟨found ++ also, ?_, List.filterMap_append⟩
  rw [List.mapM_append, reads, readsMore]
  rfl

theorem flatMap {α : Type} {items : List α} {tagsOf : α → List (List Char)}
    {givenBy : α → List Dimension} (each : ∀ item ∈ items, Give (tagsOf item) (givenBy item)) :
    Give (items.flatMap tagsOf) (items.flatMap givenBy) := by
  induction items with
  | nil => exact ⟨[], rfl, rfl⟩
  | cons item items ih =>
    rw [List.forall_mem_cons] at each
    rw [List.flatMap_cons, List.flatMap_cons]
    exact each.1.append (ih each.2)

theorem single {content : List Char} (dimension : Option Dimension)
    (reads : dimension? content = .ok dimension) : Give [content] dimension.toList := by
  refine ⟨[dimension], ?_, by cases dimension <;> rfl⟩
  rw [List.mapM_cons, reads]
  rfl

theorem other (name : Name) (attributes : List (Name × List Char))
    (different : localName name.text ≠ "col".toList ∧ localName name.text ≠ "row".toList) :
    Give [name.tag attributes] [] := by
  refine single none ?_
  rw [dimension?, Name.elementName_tag, if_neg different.1, if_neg different.2]

theorem column {c : ColumnWidth} (ordered : c.first ≤ c.last)
    (inSheet : c.last ≤ CellAddress.maxCol) : Give (Packed.column c).openings [.column c] := by
  have apart : Apart [(.ofText "min" rfl, natural (c.first + 1)),
      (.ofText "max" rfl, natural (c.last + 1)), (.ofText "width" rfl, c.width.text),
      (.ofText "customWidth" rfl, ['1'])] :=
    (by decide : ["min".toList, "max".toList, "width".toList, "customWidth".toList].Nodup)
  have small : c.last + 1 ≤ maxCount := by
    rw [CellAddress.maxCol] at inSheet
    rw [maxCount]
    omega
  have first := counts_natural (carries_tag (.ofText "col" rfl) "min" apart rfl)
    (Nat.le_trans (Nat.succ_le_succ ordered) small)
  have last := counts_natural (carries_tag (.ofText "col" rfl) "max" apart rfl)
    small
  have width := amounts_text (carries_tag (.ofText "col" rfl) "width" apart rfl)
  exact single (some (.column c)) (dimension?_eq_some_iff.2
    (.column (by rw [Name.elementName_tag]; decide) first last width ordered inSheet))

theorem cells (texts : List String) (cells : List (CellAddress × SavedCell)) :
    Give (Element.openingsAll (cells.map (cell texts))) [] := by
  have each : ∀ e ∈ cells, Give (cell texts e).openings [] := by
    rintro ⟨address, stored⟩ -
    have tag := fun attributes => other cellName attributes (by decide)
    have value := other valueName [] (by decide)
    have formula := other formulaName [] (by decide)
    cases stored with
    | formula f => exact (tag _).append (formula.append value)
    | _ => exact (tag _).append value
  rw [Element.openingsAll_eq, List.flatMap_map]
  have none : cells.flatMap (fun _ => ([] : List Dimension)) = [] := by simp
  exact none ▸ flatMap each

theorem row {r : Row} (sound : SoundRow r) (texts : List String) :
    Give (Packed.row texts r).openings (r.heights.map fun (row, height) => .row row height) := by
  obtain ⟨number, stored, heights⟩ := r
  have apart := Template.apart_row sound
  have single : heights = [] ∨ ∃ height, heights = [(number, height)] := sound.single
  have tag : elementName (rowName.tag (rowAttributes ⟨number, stored, heights⟩)) = "row".toList := by
    rw [Name.elementName_tag]
    decide
  have gives : Give [rowName.tag (rowAttributes ⟨number, stored, heights⟩)]
      (heights.map fun (row, height) => .row row height) := by
    rcases single with rfl | ⟨height, rfl⟩
    · refine Give.single none ?_
      rw [dimension?, if_neg (by rw [tag]; decide), if_pos tag, rowHeight?, attribute?_tag apart]
      rfl
    · have small : number + 1 ≤ maxCount := by
        have inSheet : number ≤ CellAddress.maxRow := sound.inSheet
        rw [CellAddress.maxRow] at inSheet
        rw [maxCount]
        omega
      have custom : Carries "customHeight"
          (rowName.tag (rowAttributes ⟨number, stored, [(number, height)]⟩)) ['1'] :=
        carries_tag rowName "customHeight" apart rfl
      have place := counts_natural (carries_tag rowName "r" apart rfl) small
      have points := amounts_text (carries_tag rowName "ht" apart rfl)
      exact Give.single (some (.row number height)) (dimension?_eq_some_iff.2
        (.row tag (.inl custom) place points))
  have all := gives.append (cells texts stored)
  rwa [List.append_nil] at all

theorem around (name : Name) (attributes : List (Name × List Char)) {children : List Element}
    {given : List Dimension}
    (different : localName name.text ≠ "col".toList ∧ localName name.text ≠ "row".toList)
    (gives : Give (Element.openingsAll children) given) :
    Give (Element.around name attributes children).openings given :=
  (other name attributes different).append gives

theorem unlessEmpty {name : Name} {content : List Element} {given : List Dimension}
    (different : localName name.text ≠ "col".toList ∧ localName name.text ≠ "row".toList)
    (gives : Give (Element.openingsAll content) given) :
    Give (Element.openingsAll (Packed.unlessEmpty name content)) given := by
  rw [Packed.unlessEmpty]
  split
  · rename_i empty
    rwa [List.isEmpty_iff.mp empty] at gives
  · rw [Element.openingsAll, Element.openingsAll, List.append_nil]
    exact around name [] different gives

theorem columnPart {saved : SavedSheet} (sound : saved.Sound) :
    Give (Element.openingsAll (Packed.columnPart saved)) (saved.layout.columns.map .column) := by
  refine unlessEmpty (by decide) ?_
  rw [Element.openingsAll_eq, List.flatMap_map, List.map_eq_flatMap]
  exact flatMap fun c member => column (sound.columns c member).1 (sound.columns c member).2

theorem mergePart (saved : SavedSheet) :
    Give (Element.openingsAll (Packed.mergePart saved)) [] := by
  have each : ∀ r ∈ saved.layout.merged, Give (merge r).openings [] := fun r _ =>
    other (.ofText "mergeCell" rfl) _ (by decide)
  have none : saved.layout.merged.flatMap (fun _ => ([] : List Dimension)) = [] := by simp
  refine unlessEmpty (by decide) ?_
  rw [Element.openingsAll_eq, List.flatMap_map]
  exact none ▸ flatMap each

theorem worksheet {saved : SavedSheet} (sound : saved.Sound) (texts : List String) :
    Give (Packed.worksheet texts saved).openings (saved.layout.columns.map .column ++
      saved.layout.rowHeights.entries.map fun (row, height) => .row row height) := by
  have rows : Give (Element.openingsAll ((Packed.sheetRows saved).map (Packed.row texts)))
      (saved.layout.rowHeights.entries.map fun (row, height) => .row row height) := by
    rw [Element.openingsAll_eq, List.flatMap_map, ← (Template.flatMap_sheetRows saved).2,
      List.map_flatMap]
    exact flatMap fun r member => row (Template.sound_of_mem_sheetRows sound member).1 texts
  have data := around (.ofText "sheetData" rfl) [] (by decide) rows
  have parts := ((columnPart sound).append data).append (mergePart saved)
  rw [List.append_nil] at parts
  refine around (.ofText "worksheet" rfl) _ (by decide) ?_
  rw [Element.openingsAll_append, Element.openingsAll_append, Element.openingsAll,
    Element.openingsAll, List.append_nil]
  exact parts

end Give

theorem layoutOf_given (columns : List ColumnWidth) (heights : SortedMap Nat Binary64) :
    layoutOf (columns.map .column ++ heights.entries.map fun (row, height) => .row row height) =
      { columns, rowHeights := heights } := by
  have rowless : columns.filterMap (fun _ => (none : Option (Nat × Binary64))) = [] := by simp
  have columnless : heights.entries.filterMap (fun _ => (none : Option ColumnWidth)) = [] := by simp
  have kept : heights.entries.filterMap (fun e => some (e.1, e.2)) = heights.entries :=
    List.filterMap_some
  have remade : SortedMap.ofList heights.entries = heights :=
    SortedMap.ext (SortedMap.entries_ofList heights.inOrder)
  simp only [layoutOf, List.filterMap_append, List.filterMap_map, Function.comp_def,
    List.filterMap_some, rowless, columnless, List.append_nil, List.nil_append, kept, remade]

theorem sheetDimensions_worksheet {saved : SavedSheet} (sound : saved.Sound) (texts : List String) :
    sheetDimensions (String.ofList (document (worksheet texts saved))) =
      .ok { columns := saved.layout.columns, rowHeights := saved.layout.rowHeights } := by
  obtain ⟨found, reads, gives⟩ := Give.worksheet sound texts
  rw [sheetDimensions, String.toList_ofList, openings_document]
  dsimp only
  rw [reads, ← layoutOf_given, ← gives]
  rfl

end ReportSheets.Package
