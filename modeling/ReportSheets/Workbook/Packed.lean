import ReportSheets.Archive.Packing
import ReportSheets.Number.Plain
import ReportSheets.Template.Package
import ReportSheets.Workbook.Saved
import ReportSheets.Xml.Element
import ReportSheets.Xml.Numbered

namespace ReportSheets

namespace Package

def schema : String := "http://schemas.openxmlformats.org/"

def mainSpace : String := schema ++ "spreadsheetml/2006/main"

def relationSpace : String := schema ++ "officeDocument/2006/relationships"

end Package

namespace Packed

open Text (natural)
open Xml

def space : Name := .ofText "xmlns" rfl

def unlessEmpty (name : Name) (content : List Element) : List Element :=
  if content.isEmpty then [] else [.around name [] content]

/-- A text that looks like one or more runs is taken for their markup. -/
def isMarkup (text : String) : Bool :=
  (Text.after? "<r>".toList text.toList).isSome &&
    (Text.after? "</r>".toList.reverse text.toList.reverse).isSome

def plainText (text : String) : List Char := writeNumbered (maskNumbered text.toList)

def itemName : Name := .ofText "si" rfl

def plainItem (text : String) : Element :=
  .around itemName []
    [.holding (.ofText "t" rfl) [(.ofText "xml:space" rfl, "preserve".toList)] (plainText text)]

/-- An item of the table of texts. Markup stands there as it is. -/
def item (text : String) : List Char :=
  if isMarkup text then itemName.opening [] ++ (text.toList ++ itemName.closing)
  else (plainItem text).written

def tableName : Name := .ofText "sst" rfl

def textTable (texts : List String) : List Char :=
  declaration ++ (tableName.opening [(space, Package.mainSpace.toList)] ++
    (texts.flatMap item ++ tableName.closing))

def cellName : Name := .ofText "c" rfl

def valueName : Name := .ofText "v" rfl

def placeName : Name := .ofText "r" rfl

def typeName : Name := .ofText "t" rfl

def formulaName : Name := .ofText "f" rfl

def cellType : SavedCell → List (Name × List Char)
  | .text _ => [(typeName, ['s'])]
  | .bool _ => [(typeName, ['b'])]
  | .number _ | .formula _ => []

def cellParts (texts : List String) : SavedCell → List Element
  | .text text => [.holding valueName [] (natural (texts.idxOf text))]
  | .number number => [.holding valueName [] number.text]
  | .bool value => [.holding valueName [] [if value then '1' else '0']]
  | .formula formula =>
    [.holding formulaName [] formula.toList, .holding valueName [] ['0']]

def cell (texts : List String) (entry : CellAddress × SavedCell) : Element :=
  .around cellName ((placeName, entry.1.text) :: cellType entry.2) (cellParts texts entry.2)

structure Row where
  row : Nat
  cells : List (CellAddress × SavedCell)
  heights : List (Nat × Binary64)

def nextRow? (cells : List (CellAddress × SavedCell)) (heights : List (Nat × Binary64)) :
    Option Nat :=
  match cells.head?, heights.head? with
  | some (address, _), some (row, _) => some (min address.row row)
  | some (address, _), none => some address.row
  | none, some (row, _) => some row
  | none, none => none

/-- The rows that have cells or a height; one row at least goes with each unit of `fuel`. -/
def rowsOf : Nat → List (CellAddress × SavedCell) → List (Nat × Binary64) → List Row
  | 0, _, _ => []
  | fuel + 1, cells, heights =>
    match nextRow? cells heights with
    | none => []
    | some row =>
      let inRow := fun (entry : CellAddress × SavedCell) => entry.1.row == row
      let ofRow := fun (entry : Nat × Binary64) => entry.1 == row
      ⟨row, cells.takeWhile inRow, heights.takeWhile ofRow⟩ ::
        rowsOf fuel (cells.dropWhile inRow) (heights.dropWhile ofRow)

def rowName : Name := .ofText "row" rfl

def rowAttributes (r : Row) : List (Name × List Char) :=
  (placeName, natural (r.row + 1)) :: r.heights.flatMap fun (_, height) =>
    [(.ofText "ht" rfl, height.text), (.ofText "customHeight" rfl, ['1'])]

def row (texts : List String) (r : Row) : Element :=
  .around rowName (rowAttributes r) (r.cells.map (cell texts))

def column (c : ColumnWidth) : Element :=
  .closed (.ofText "col" rfl) [(.ofText "min" rfl, natural (c.first + 1)),
    (.ofText "max" rfl, natural (c.last + 1)), (.ofText "width" rfl, c.width.text),
    (.ofText "customWidth" rfl, ['1'])]

def merge (r : MergedRange) : Element :=
  .closed (.ofText "mergeCell" rfl) [(.ofText "ref" rfl, r.first.text ++ ':' :: r.last.text)]

def sheetRows (sheet : SavedSheet) : List Row :=
  let cells := sheet.cells.entries
  let heights := sheet.layout.rowHeights.entries
  rowsOf (cells.length + heights.length) cells heights

def columnPart (sheet : SavedSheet) : List Element :=
  unlessEmpty (.ofText "cols" rfl) (sheet.layout.columns.map column)

def mergePart (sheet : SavedSheet) : List Element :=
  unlessEmpty (.ofText "mergeCells" rfl) (sheet.layout.merged.map merge)

def worksheet (texts : List String) (sheet : SavedSheet) : Element :=
  .around (.ofText "worksheet" rfl) [(space, Package.mainSpace.toList)]
    (columnPart sheet ++ [.around (.ofText "sheetData" rfl) [] ((sheetRows sheet).map (row texts))] ++
      mergePart sheet)

def worksheetFile (number : Nat) : List Char :=
  "worksheets/sheet".toList ++ (natural number ++ ".xml".toList)

def relation (number : Nat) : List Char := "rId".toList ++ natural number

def numbered (book : SavedBook) : List (SavedSheet × Nat) := book.sheets.zipIdx 1

def sheetAttributes (entry : SavedSheet × Nat) : List (Name × List Char) :=
  [(titleName, entry.1.name.toList), (.ofText "sheetId" rfl, natural entry.2),
    (.ofText "r:id" rfl, relation entry.2)]

def listedSheet (entry : SavedSheet × Nat) : Element :=
  .closed (.ofText "sheet" rfl) (sheetAttributes entry)

def workbookSpaces : List (Name × List Char) :=
  [(space, Package.mainSpace.toList), (.ofText "xmlns:r" rfl, Package.relationSpace.toList)]

def viewAttributes (book : SavedBook) : List (Name × List Char) :=
  if book.activeTab = 0 then [] else [(.ofText "activeTab" rfl, natural book.activeTab)]

def workbook (book : SavedBook) : Element :=
  .around (.ofText "workbook" rfl) workbookSpaces
    [.around (.ofText "bookViews" rfl) [] [.closed (.ofText "workbookView" rfl) (viewAttributes book)],
      .around (.ofText "sheets" rfl) [] ((numbered book).map listedSheet)]

structure Relationship where
  id : List Char
  kind : String
  target : List Char

def relationshipAttributes (r : Relationship) : List (Name × List Char) :=
  [(.ofText "Id" rfl, r.id),
    (.ofText "Type" rfl, (Package.relationSpace ++ "/" ++ r.kind).toList),
    (.ofText "Target" rfl, r.target)]

def relationship (r : Relationship) : Element :=
  .closed (.ofText "Relationship" rfl) (relationshipAttributes r)

def relationships (targets : List Relationship) : Element :=
  .around (.ofText "Relationships" rfl)
    [(space, (Package.schema ++ "package/2006/relationships").toList)] (targets.map relationship)

def workbookRelationships (book : SavedBook) : List Relationship :=
  ((numbered book).map fun entry => ⟨relation entry.2, "worksheet", worksheetFile entry.2⟩) ++
    [⟨relation (book.sheets.length + 1), "sharedStrings", "sharedStrings.xml".toList⟩]

def contentTypes (book : SavedBook) : Element :=
  let contentType : Name := .ofText "ContentType" rfl
  let general := fun (extension kind : String) => Element.closed (.ofText "Default" rfl)
    [(.ofText "Extension" rfl, extension.toList), (contentType, kind.toList)]
  let special := fun (file : List Char) (kind : String) => Element.closed (.ofText "Override" rfl)
    [(.ofText "PartName" rfl, '/' :: file), (contentType,
      ("application/vnd.openxmlformats-officedocument.spreadsheetml." ++ kind ++ "+xml").toList)]
  .around (.ofText "Types" rfl) [(space, (Package.schema ++ "package/2006/content-types").toList)]
    ([general "rels" "application/vnd.openxmlformats-package.relationships+xml",
      general "xml" "application/xml",
      special Package.workbookPart.toList "sheet.main",
      special Package.stringsPart.toList "sharedStrings"] ++
      (numbered book).map fun entry =>
        special ("xl/".toList ++ worksheetFile entry.2) "worksheet")

def part (name : String) (text : List Char) : Archive.Part := ⟨name, (String.ofList text).toUTF8⟩

def sheetFile (number : Nat) : String := String.ofList ("xl/".toList ++ worksheetFile number)

def worksheetPart (texts : List String) (entry : SavedSheet × Nat) : Archive.Part :=
  part (sheetFile entry.2) (document (worksheet texts entry.1))

end Packed

def SavedBook.parts (book : SavedBook) : List Archive.Part :=
  [Packed.part "[Content_Types].xml" (Xml.document (Packed.contentTypes book)),
    Packed.part "_rels/.rels" (Xml.document (Packed.relationships
      [⟨Packed.relation 1, "officeDocument", Package.workbookPart.toList⟩])),
    Packed.part Package.workbookPart (Xml.document (Packed.workbook book)),
    Packed.part Package.relationshipsPart
      (Xml.document (Packed.relationships (Packed.workbookRelationships book))),
    Packed.part Package.stringsPart (Packed.textTable book.texts)] ++
  (Packed.numbered book).map (Packed.worksheetPart book.texts)

def SavedBook.package (book : SavedBook) : Package :=
  .ofParts (book.parts.map fun part => (part.name, part.content))

end ReportSheets
