import ReportSheets.Command.Basic
import ReportSheets.Sheet.Basic

namespace ReportSheets

structure Workbook where
  sheets : List Sheet
  active : Nat := 0
deriving DecidableEq

namespace Workbook

def size (wb : Workbook) : Nat := wb.sheets.length

def names (wb : Workbook) : List String := wb.sheets.map (·.name)

def indexOf? (wb : Workbook) (name : String) : Option Nat :=
  wb.sheets.findIdx? fun sheet => sameName sheet.name name

def activeSheet? (wb : Workbook) : Option Sheet := wb.sheets[wb.active]?

def activeText? (wb : Workbook) (address : CellAddress) : Option String :=
  (wb.activeSheet?.bind fun sheet => sheet.cell? address).bind CellValue.text?

def add (wb : Workbook) (sheet : Sheet) : Except Error (Nat × Workbook) :=
  match nameFault? sheet.name with
  | some fault => .error (.sheetName sheet.name fault)
  | none =>
    if (wb.indexOf? sheet.name).isSome then .error (.sheetExists sheet.name)
    else .ok (wb.size, { wb with sheets := wb.sheets ++ [sheet] })

def activate (wb : Workbook) (index : Nat) : Except Error Workbook :=
  if index < wb.size then .ok { wb with active := index }
  else .error (.sheetIndex index wb.size)

def clone (wb : Workbook) (index : Nat) (newName : String) : Except Error (Nat × Workbook) :=
  match wb.sheets[index]? with
  | some sheet => wb.add { sheet with name := newName }
  | none => .error (.sheetIndex index wb.size)

/-- The active index once the sheet at `index` is gone and `count` sheets are left. -/
def activeAfterRemoval (active index count : Nat) : Nat :=
  if index < active ∨ (active = count ∧ 0 < active) then active - 1 else active

def remove (wb : Workbook) (index : Nat) : Except Error (Sheet × Workbook) :=
  match wb.sheets[index]? with
  | some sheet =>
    let sheets := wb.sheets.eraseIdx index
    .ok (sheet, { sheets, active := activeAfterRemoval wb.active index sheets.length })
  | none => .error (.sheetIndex index wb.size)

def setText (wb : Workbook) (address : CellAddress) (text : String) : Except Error Workbook :=
  match wb.activeSheet? with
  | some sheet =>
    .ok { wb with sheets := wb.sheets.set wb.active (sheet.setCell address (.text text)) }
  | none => .error .noActiveSheet

def resolve (wb : Workbook) (ref : SheetRef) : Except Error Nat :=
  let found := match ref with
    | .name name => wb.indexOf? name
    | .number n => if 0 ≤ n ∧ n < wb.size then some n.toNat else none
  match found with
  | some index => .ok index
  | none => .error (.sheetMissing ref.text)

end Workbook

end ReportSheets
