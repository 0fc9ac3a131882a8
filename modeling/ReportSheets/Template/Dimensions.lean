import ReportSheets.Error
import ReportSheets.Number.Reading
import ReportSheets.Template.Package
import ReportSheets.Sheet.Layout

namespace ReportSheets.Package

def attribute? (name : String) (content : List Char) : Except Error (Option (List Char)) :=
  match Xml.attributeWhere (fun full => Xml.localName full == name.toList) content with
  | none => .error .templateXml
  | some none => .ok none
  | some (some value) =>
    match Xml.unescape? value with
    | some text => .ok (some text)
    | none => .error .templateXml

def gather {α : Type} (name : String) (f : List Char → Except Error (Option α)) :
    List (List Char) → Except Error (List α)
  | [] => .ok []
  | content :: more =>
    if Xml.elementName content = name.toList then do
      let found ← f content
      return found.toList ++ (← gather name f more)
    else gather name f more

def faultOf : Archive.Fault → Error
  | .corrupt => .corruptData
  | .checksum => .checksumMismatch

def readText (name : String) : Archive.Content → Except Error String
  | .locked => .error (.templatePart name)
  | .bytes _ (some fault) => .error (faultOf fault)
  | .bytes content none =>
    match String.fromUTF8? content with
    | some text => .ok text
    | none => .error .notUtf8

def readPart? (package : Package) (name : String) : Except Error (Option String) :=
  (package.part? name).mapM (readText name)

def both? (first second : String) (content : List Char) :
    Except Error (Option (String × String)) := do
  match ← attribute? first content, ← attribute? second content with
  | some a, some b => return some (String.ofList a, String.ofList b)
  | _, _ => return none

def sheetRelations (workbook : String) : Except Error (List (String × String)) := do
  let (tags, broken) := Xml.openings workbook.toList
  let found ← gather "sheet" (both? "name" "id") tags
  if broken then throw .templateXml
  return found

def relationTargets (relationships : String) : Except Error (List (String × String)) := do
  let (tags, broken) := Xml.openings relationships.toList
  let found ← gather "Relationship" (both? "Id" "Target") tags
  if broken then throw .templateXml
  return found

def lastOf? {α : Type} (entries : List (String × α)) (key : String) : Option α :=
  (entries.reverse.find? fun entry => entry.1 == key).map (·.2)

/-- The part that a target means; targets count from the folder of the workbook part unless they
begin with a slash. -/
def targetPart (target : String) : String :=
  match Text.after? ['/'] target.toList with
  | some rest => String.ofList rest
  | none => "xl/" ++ target

def maxCount : Nat := 4294967295

def numberOf? (value : Option (List Char)) : Option Nat :=
  value.bind fun text => Text.readCount? maxCount text

def realOf? (value : Option (List Char)) : Option Binary64 := value.bind Binary64.read?

def columnWidth? (content : List Char) : Except Error (Option ColumnWidth) := do
  let first ← attribute? "min" content
  let last ← attribute? "max" content
  let width ← attribute? "width" content
  match numberOf? first, numberOf? last, realOf? width with
  | some first, some last, some width =>
    if first = 0 ∨ last < first ∨ CellAddress.maxCol + 1 < last then return none
    else return some ⟨first - 1, last - 1, width⟩
  | _, _, _ => return none

def isTrue (value : Option (List Char)) : Bool :=
  value = some ['1'] || value = some "true".toList

def rowHeight? (content : List Char) : Except Error (Option (Nat × Binary64)) := do
  if isTrue (← attribute? "customHeight" content) then
    let row ← attribute? "r" content
    let height ← attribute? "ht" content
    match numberOf? row, realOf? height with
    | some (row + 1), some height => return some (row, height)
    | _, _ => return none
  else return none

inductive Dimension
  | column (width : ColumnWidth)
  | row (row : Nat) (height : Binary64)

def dimension? (content : List Char) : Except Error (Option Dimension) :=
  if Xml.elementName content = "col".toList then
    (columnWidth? content).map fun found => found.map .column
  else if Xml.elementName content = "row".toList then
    (rowHeight? content).map fun found => found.map fun (row, height) => .row row height
  else .ok none

def layoutOf (dimensions : List Dimension) : Layout where
  columns := dimensions.filterMap fun
    | .column width => some width
    | .row .. => none
  rowHeights := .ofList (dimensions.filterMap fun
    | .column _ => none
    | .row row height => some (row, height))

def sheetDimensions (worksheet : String) : Except Error Layout := do
  let (tags, broken) := Xml.openings worksheet.toList
  let found ← tags.mapM dimension?
  if broken then throw .templateXml
  return layoutOf (found.filterMap id)

def sheetLayouts (package : Package) (targets : List (String × String)) :
    List (String × String) → Except Error (List (String × Layout))
  | [] => .ok []
  | (sheet, relation) :: more => do
    let part ← match lastOf? targets relation with
      | some target => package.readPart? (targetPart target)
      | none => pure none
    let layout ← part.mapM sheetDimensions
    return (layout.map fun layout => (sheet, layout)).toList ++
      (← package.sheetLayouts targets more)

/-- The dimensions of the sheets by name; a package without a workbook part or a relationship part
has none. -/
def dimensions (package : Package) : Except Error (List (String × Layout)) := do
  let workbook ← package.readPart? workbookPart
  let relationships ← package.readPart? relationshipsPart
  match workbook, relationships with
  | some workbook, some relationships => do
    let targets ← relationTargets relationships
    package.sheetLayouts targets (← sheetRelations workbook)
  | _, _ => return []

end ReportSheets.Package
