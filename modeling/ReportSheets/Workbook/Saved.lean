import ReportSheets.Text.Lowercase
import ReportSheets.Workbook.Basic
import ReportSheets.Workbook.SavedFormula

namespace ReportSheets

inductive SavedCell
  | text (text : String)
  | number (number : Binary64)
  | bool (value : Bool)
  /-- The formula as it is spelled in files; the cell also holds zero as its last result. -/
  | formula (formula : String)
deriving DecidableEq

structure SavedSheet where
  name : String
  cells : SortedMap CellAddress SavedCell
  layout : Layout
deriving DecidableEq

structure SavedBook where
  sheets : List SavedSheet
  activeTab : Nat
deriving DecidableEq

namespace SavedCell

def maxTextLength : Nat := 32767

/-- Numbers that a file cannot hold are written as words. -/
def ofNumber : Binary64 → SavedCell
  | .nan => .text "NAN"
  | .infinite negative => .text (if negative then "-INF" else "INF")
  | n => .number n

def ofValue : CellValue → Except Error (Option SavedCell)
  | .text s =>
    if maxTextLength < s.length then .error .textTooLong
    else if s = "" then .ok none
    else .ok (some (.text s))
  | .number n => .ok (some (ofNumber n))
  | .bool b => .ok (some (.bool b))
  | .formula f => .ok (some (.formula (SavedFormula.write f)))

def text? : SavedCell → Option String
  | .text s => some s
  | _ => none

end SavedCell

namespace Layout

def pixelsAt (columns : List ColumnWidth) (column : Nat) : Option Nat :=
  (columns.reverse.find? fun c => c.first ≤ column && column ≤ c.last).map ColumnWidth.pixels

def widest : Nat := 1790

/-- The width in characters that stands for a number of pixels, in steps of `1 / 256`. -/
def savedWidth (pixels : Nat) : Binary64 := .ofRatio false (256 * pixels / 7) 256

def joinColumns : List (Nat × Nat) → List (Nat × Nat × Nat)
  | [] => []
  | (column, pixels) :: rest =>
    match joinColumns rest with
    | (first, last, width) :: more =>
      if width = pixels ∧ first = column + 1 then (column, last, width) :: more
      else (column, column, pixels) :: (first, last, width) :: more
    | [] => [(column, column, pixels)]

def columnsWithPixels (columns : List ColumnWidth) : List (Nat × Nat) :=
  (List.range (CellAddress.maxCol + 1)).filterMap fun column =>
    (pixelsAt columns column).map fun pixels => (column, min pixels widest)

def savedColumns (columns : List ColumnWidth) : List ColumnWidth :=
  (joinColumns (columnsWithPixels columns)).map fun (first, last, pixels) =>
    ⟨first, last, savedWidth pixels⟩

def checkColumns : List ColumnWidth → Except Error Unit
  | [] => .ok ()
  | c :: rest =>
    if c.last < c.first then .error .rangeOrder
    else if CellAddress.maxCol < c.last then .error .beyondSheet
    else checkColumns rest

def usualHeight : Binary64 := .ofNat 15

def isKept (height : Binary64) : Bool := !height.isZero && height != usualHeight

def checkRows (rows : List (Nat × Binary64)) : Except Error Unit :=
  if rows.any fun row => CellAddress.maxRow < row.1 then .error .beyondSheet else .ok ()

def rangeText (r : MergedRange) : String :=
  String.ofList ('(' :: Text.natural r.first.row ++ ", ".toList ++ Text.natural r.first.col ++
    ", ".toList ++ Text.natural r.last.row ++ ", ".toList ++ Text.natural r.last.col ++
    ") / ".toList ++ r.first.text ++ ':' :: r.last.text)

def sharedCorner (r s : MergedRange) : CellAddress :=
  ⟨max r.first.row s.first.row, max r.first.col s.first.col⟩

/-- Of the ranges that overlap `r`, the one whose cell is met first in `r`. -/
def firstOverlap? (r : MergedRange) (saved : List MergedRange) : Option MergedRange :=
  (saved.filter r.overlaps).foldl (fun found s =>
    match found with
    | none => some s
    | some t => if KeyOrder.before (sharedCorner r s) (sharedCorner r t) then some s else some t)
    none

def saveMerges (saved : List MergedRange) : List MergedRange → Except Error (List MergedRange)
  | [] => .ok saved
  | r :: rest =>
    if r.first = r.last then saveMerges saved rest
    else if ¬(r.first.InBounds ∧ r.last.InBounds) then .error .beyondSheet
    else if r.last.row < r.first.row ∨ r.last.col < r.first.col then .error .rangeOrder
    else
      match firstOverlap? r saved with
      | some s => .error (.mergeOverlap (rangeText r) (rangeText s))
      | none => saveMerges (saved ++ [r]) rest

def save (layout : Layout) : Except Error Layout := do
  checkColumns layout.columns
  checkRows layout.rowHeights.entries
  let merged ← saveMerges [] layout.merged
  return {
    merged
    columns := savedColumns layout.columns
    rowHeights := layout.rowHeights.filterValues isKept }

end Layout

namespace Sheet

def saveCells : List (CellAddress × CellValue) →
    Except Error (List (CellAddress × SavedCell))
  | [] => .ok []
  | (address, value) :: rest =>
    if ¬address.InBounds then .error .beyondSheet
    else do
      let cell ← SavedCell.ofValue value
      let cells ← saveCells rest
      return (cell.map fun cell => (address, cell)).toList ++ cells

def save (sheet : Sheet) : Except Error SavedSheet :=
  match nameFault? sheet.name with
  | some fault => .error (.savedName sheet.name fault)
  | none => do
    let layout ← sheet.layout.save
    let cells ← saveCells sheet.cells.entries
    return { name := sheet.name, cells := .ofList cells, layout }

end Sheet

/-- Names count as equal in a file when they are so in lower case. -/
def foldedName (name : String) : String := String.ofList (Text.lowercase name.toList)

def repeatedName? (used : List String) : List String → Option String
  | [] => none
  | name :: rest =>
    if foldedName name ∈ used then some (foldedName name)
    else repeatedName? (foldedName name :: used) rest

namespace Workbook

def emptySaved : SavedBook :=
  { sheets := [⟨"Sheet1", .empty, {}⟩], activeTab := 0 }

/-- What the file of a workbook holds; a workbook without sheets is saved with an empty one. -/
def save (wb : Workbook) : Except Error SavedBook := do
  let sheets ← wb.sheets.mapM Sheet.save
  match repeatedName? [] wb.names with
  | some name => throw (.savedNameUsed name)
  | none =>
    if sheets.isEmpty then return emptySaved
    else return { sheets, activeTab := if wb.active < sheets.length then wb.active else 0 }

end Workbook

namespace SavedBook

def addText (texts : List String) (text : String) : List String :=
  if text ∈ texts then texts else texts ++ [text]

def texts (book : SavedBook) : List String :=
  (book.sheets.flatMap fun sheet =>
    sheet.cells.entries.filterMap fun entry => entry.2.text?).foldl addText []

end SavedBook

end ReportSheets
