import ReportSheets.Proofs.Workbook.ReadDimensions
import ReportSheets.Proofs.Workbook.ReadOutline

namespace ReportSheets.Package

open Xml Packed
open Text (natural)

variable {α β : Type} {own : Name} {attributes : List (Name × List Char)} {name : String}
  {f : List Char → Except Error (Option α)} {book : SavedBook}

theorem gather_other {tags more : List (List Char)}
    (other : ∀ tag ∈ tags, elementName tag ≠ name.toList) :
    gather name f (tags ++ more) = gather name f more := by
  induction tags with
  | nil => rfl
  | cons tag tags ih =>
    rw [List.forall_mem_cons] at other
    rw [List.cons_append, gather, if_neg other.1, ih other.2]

theorem gather_map (items : List β) {tag : β → List Char} {result : β → α}
    (each : ∀ item, elementName (tag item) = name.toList ∧ f (tag item) = .ok (some (result item))) :
    gather name f (items.map tag) = .ok (items.map result) := by
  induction items with
  | nil => rfl
  | cons item items ih =>
    rw [List.map_cons, gather, if_pos (each item).1, (each item).2, ih]
    rfl

theorem both?_tag (apart : Apart attributes) {first second : String} {given other : List Char}
    (left : (attributes.find? fun given => localName given.1.text == first.toList).map (·.2) =
      some given)
    (right : (attributes.find? fun given => localName given.1.text == second.toList).map (·.2) =
      some other) :
    both? first second (own.tag attributes) =
      .ok (some (String.ofList given, String.ofList other)) := by
  rw [both?, attribute?_tag apart, attribute?_tag apart, left, right]
  rfl

theorem relationTargets_document (targets : List Relationship) :
    relationTargets (String.ofList (document (relationships targets))) =
      .ok (targets.map fun r => (String.ofList r.id, String.ofList r.target)) := by
  have tags : (relationships targets).openings = [(Name.ofText "Relationships" rfl).tag
      [(space, (schema ++ "package/2006/relationships").toList)]] ++
        targets.map fun r => (Name.ofText "Relationship" rfl).tag (relationshipAttributes r) := by
    rw [relationships, Element.openings, Element.openingsAll_eq, List.flatMap_map,
      List.map_eq_flatMap]
    rfl
  have each : ∀ r : Relationship,
      elementName ((Name.ofText "Relationship" rfl).tag (relationshipAttributes r)) =
        "Relationship".toList ∧
      both? "Id" "Target" ((Name.ofText "Relationship" rfl).tag (relationshipAttributes r)) =
        .ok (some (String.ofList r.id, String.ofList r.target)) := fun r =>
    ⟨by rw [Name.elementName_tag]; decide, both?_tag (Template.apart_relationship r) rfl rfl⟩
  rw [relationTargets, String.toList_ofList, openings_document]
  dsimp only
  rw [tags, gather_other (by
    intro tag member
    rw [List.mem_singleton.mp member, Name.elementName_tag]
    decide), gather_map targets each]
  rfl

theorem sheetRelations_document (book : SavedBook) :
    sheetRelations (String.ofList (document (Packed.workbook book))) =
      .ok ((numbered book).map fun entry => (entry.1.name, String.ofList (relation entry.2))) := by
  let front := [(Name.ofText "workbook" rfl).tag workbookSpaces, (Name.ofText "bookViews" rfl).tag [],
    (Name.ofText "workbookView" rfl).tag (viewAttributes book), (Name.ofText "sheets" rfl).tag []]
  have tags : (Packed.workbook book).openings = front ++
      (numbered book).map fun entry => (Name.ofText "sheet" rfl).tag (sheetAttributes entry) := by
    rw [Packed.workbook, Element.openings, Element.openingsAll_eq, List.flatMap_cons,
      List.flatMap_singleton, Element.openings, Element.openings, Element.openingsAll_eq,
      Element.openingsAll_eq, List.flatMap_map, List.map_eq_flatMap]
    rfl
  have other : ∀ tag ∈ front, elementName tag ≠ "sheet".toList := by
    simp only [front, List.forall_mem_cons, Name.elementName_tag]
    decide
  have each : ∀ entry : SavedSheet × Nat,
      elementName ((Name.ofText "sheet" rfl).tag (sheetAttributes entry)) = "sheet".toList ∧
      both? "name" "id" ((Name.ofText "sheet" rfl).tag (sheetAttributes entry)) =
        .ok (some (String.ofList entry.1.name.toList, String.ofList (relation entry.2))) :=
    fun entry =>
      ⟨by rw [Name.elementName_tag]; decide, both?_tag (Template.apart_sheet entry) rfl rfl⟩
  rw [sheetRelations, String.toList_ofList, openings_document]
  dsimp only
  rw [tags, gather_other other, gather_map (numbered book) each]
  simp

theorem readPart?_document {name : String} {root : Element}
    (member : part name (document root) ∈ book.parts) :
    book.package.readPart? name = .ok (some (String.ofList (document root))) := by
  rw [readPart?, part?_part member]
  show (readText name _).map some = _
  rw [readText_toUTF8]
  rfl

def measures (saved : SavedSheet) : Layout :=
  { columns := saved.layout.columns, rowHeights := saved.layout.rowHeights }

def targets (book : SavedBook) : List (String × String) :=
  (workbookRelationships book).map fun r => (String.ofList r.id, String.ofList r.target)

theorem nodup_targets (book : SavedBook) : ((targets book).map Prod.fst).Nodup := by
  have texts := List.Nodup.map (f := String.ofList) (fun _ _ same => String.ofList_inj.mp same)
    (Template.nodup_workbookRelationships book)
  rw [List.map_map] at texts
  rw [targets, List.map_map]
  exact texts

theorem worksheetOf?_package {entry : SavedSheet × Nat} (member : entry ∈ numbered book) :
    book.package.worksheetOf? (targets book) (String.ofList (relation entry.2)) =
      .ok (some (String.ofList (document (worksheet book.texts entry.1)))) := by
  have related : (String.ofList (relation entry.2), String.ofList (worksheetFile entry.2)) ∈
      targets book :=
    List.mem_map_of_mem (f := fun r : Relationship => (String.ofList r.id, String.ofList r.target))
      (List.mem_append_left _ (List.mem_map_of_mem member))
  have file : sheetFile entry.2 = "xl/" ++ String.ofList (worksheetFile entry.2) :=
    String.ofList_append
  have means : Means (String.ofList (worksheetFile entry.2)) (sheetFile entry.2) := by
    rw [file]
    refine .relative ?_
    rw [String.toList_ofList]
    exact (by decide : some 'w' ≠ some '/')
  rw [worksheetOf?_of_related (nodup_targets book) related means]
  exact readPart?_document (mem_parts_of_mem_numbered member)

theorem sheetLayouts_package (sound : ∀ saved ∈ book.sheets, saved.Sound)
    {entries : List (SavedSheet × Nat)} (among : ∀ entry ∈ entries, entry ∈ numbered book) :
    book.package.sheetLayouts (targets book)
      (entries.map fun entry => (entry.1.name, String.ofList (relation entry.2))) =
        .ok (entries.map fun entry => (entry.1.name, measures entry.1)) := by
  induction entries with
  | nil => rfl
  | cons entry entries ih =>
    obtain ⟨member, among⟩ := List.forall_mem_cons.mp among
    have stored : entry.1 ∈ book.sheets := List.fst_mem_of_mem_zipIdx member
    have measured := sheetDimensions_worksheet (sound entry.1 stored) book.texts
    have reads := worksheetOf?_package member
    rw [List.map_cons, sheetLayouts_cons, ih among]
    generalize String.ofList (document (worksheet book.texts entry.1)) = text at measured reads
    rw [reads]
    show ((sheetDimensions text).map some).bind _ = _
    rw [measured]
    rfl

theorem dimensions_package (sound : ∀ saved ∈ book.sheets, saved.Sound) :
    book.package.dimensions = .ok (book.sheets.map fun saved => (saved.name, measures saved)) := by
  have listing := readPart?_document (workbook_mem_parts book)
  have relating := readPart?_document (relationships_mem_parts book)
  have layouts := sheetLayouts_package sound fun entry (member : entry ∈ numbered book) => member
  have sheets : (numbered book).map (fun entry => (entry.1.name, measures entry.1)) =
      book.sheets.map fun saved => (saved.name, measures saved) := by
    rw [Packed.numbered]
    conv_rhs => rw [← List.zipIdx_map_fst 1 book.sheets, List.map_map]
    rfl
  rw [dimensions_of_parts listing relating, relationTargets_document, sheetRelations_document]
  show book.package.sheetLayouts (targets book) _ = _
  rw [layouts, sheets]

end ReportSheets.Package
