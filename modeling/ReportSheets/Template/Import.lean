import ReportSheets.Archive.Directory
import ReportSheets.Files.Tree
import ReportSheets.Template.Dimensions
import ReportSheets.Template.Outline
import ReportSheets.Template.SharedFormula
import ReportSheets.Template.Value
import ReportSheets.Workbook.Packed

namespace ReportSheets

namespace Template

open Xml

/-- The formulas without a leading equals sign; none at all when one of them is broken. -/
def formulasOf (part : List Event × Bool) : List (CellAddress × CellValue) :=
  let filled := ((formulas? part).getD []).filter fun cell => !cell.2.isEmpty
  (withinRows filled).map fun (place, text) =>
    (place, .formula (String.ofList ((Text.after? ['='] text).getD text)))

def mergedRanges? : List Event → Option (List MergedRange)
  | [] => none
  | .text _ :: rest => mergedRanges? rest
  | .finish name :: rest =>
    if localName name = "mergeCells".toList then some [] else mergedRanges? rest
  | .start content _ :: rest =>
    if elementName content = "mergeCell".toList then do
      let range ← (← attributeWhere (· == "ref".toList) content).mapM range?
      return range.toList ++ (← mergedRanges? rest)
    else mergedRanges? rest

/-- The merged ranges of a worksheet part; none when they cannot be read, and a fault when something
broken comes before them. -/
def merges? (broken : Bool) : List Event → Option (List MergedRange)
  | [] => if broken then none else some []
  | .start content _ :: rest =>
    if elementName content = "mergeCells".toList then some ((mergedRanges? rest).getD [])
    else merges? broken rest
  | _ :: rest => merges? broken rest

def canCarry (range : MergedRange) : Bool :=
  range.first.col ≤ maxColumn && range.last.col ≤ maxColumn

def sheetOf (package : Package) (outline : Outline) (name : String) : Except Error Sheet :=
  let part := (outline.sheets.find? fun entry => entry.name == name).bind fun entry =>
    (package.partFolded? entry.part).bind Archive.Content.events?
  match part with
  | none => .error (.templateSheet name)
  | some part =>
    match values? outline.texts part with
    | none => .error (.templateSheet name)
    | some values =>
      match merges? part.2 part.1 with
      | none => .error (.templateMerges name)
      | some merged =>
        .ok {
          name
          cells := .ofList (values ++ formulasOf part)
          layout := { merged := merged.filter canCarry } }

def takeLayout (layouts : List (String × Layout)) (name : String) :
    Option Layout × List (String × Layout) :=
  (Package.lastOf? layouts name, layouts.filter fun entry => entry.1 != name)

/-- Each sheet with its widths and heights; of two sheets of one name the first has them. -/
def sheetsOf (package : Package) (outline : Outline) (layouts : List (String × Layout)) :
    List String → Except Error (List Sheet)
  | [] => .ok []
  | name :: more => do
    let sheet ← sheetOf package outline name
    let (dimensions, layouts) := takeLayout layouts name
    let layout := match dimensions with
      | some found => { found with merged := sheet.layout.merged }
      | none => sheet.layout
    return { sheet with layout } :: (← sheetsOf package outline layouts more)

end Template

namespace Package

def workbook (path : String) (package : Package) : Except Error Workbook :=
  match Template.outline? package with
  | none => .error (.templateUnreadable path)
  | some outline => do
    let layouts ← package.dimensions
    let sheets ← Template.sheetsOf package outline layouts (outline.sheets.map (·.name))
    return { sheets }

end Package

def SavedBook.load (path : String) (book : SavedBook) : Except Error Workbook :=
  book.package.workbook path

namespace FileContent

def workbook (path : String) : FileContent → Except Error Workbook
  | book saved => saved.load path
  | parts named => Package.workbook path (.ofParts named)
  | bytes content =>
    match Archive.unpack? content with
    | some found => Package.workbook path ⟨found⟩
    | none => .error (.templateUnreadable path)

end FileContent

namespace Files

def workbook (files : Files) (path : String) : Except Error Workbook :=
  match files path with
  | .ok content => content.workbook path
  | .error .isADirectory => .error (.templateUnreadable path)
  | .error _ => .error (.templateFileMissing path)

end Files

end ReportSheets
