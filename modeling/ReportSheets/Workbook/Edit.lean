import ReportSheets.Workbook.Basic

namespace ReportSheets

abbrev Editing (α : Type) := ExceptT Error (StateM Workbook) α

namespace Editing

/-- The answer and the workbook after it, also where an edit fails on the way. -/
def run {α : Type} (edit : Editing α) (wb : Workbook) : Except Error α × Workbook :=
  StateT.run (ExceptT.run edit) wb

def resolve (ref : SheetRef) : Editing Nat := do
  let wb ← get
  MonadExcept.ofExcept (wb.resolve ref)

def sheetAt (index : Nat) : Editing Sheet := do
  let wb ← get
  match wb.sheets[index]? with
  | some sheet => return sheet
  | none => throw (.sheetIndex index wb.size)

def add (sheet : Sheet) : Editing Nat := do
  if let some fault := nameFault? sheet.name then
    throw (.sheetName sheet.name fault)
  if ((← get).indexOf? sheet.name).isSome then
    throw (.sheetExists sheet.name)
  modify fun wb => { wb with sheets := wb.sheets ++ [sheet] }
  return (← get).size - 1

def activate (index : Nat) : Editing Unit := do
  let _ ← sheetAt index
  modify fun wb => { wb with active := index }

def clone (index : Nat) (newName : String) : Editing Nat := do
  let sheet ← sheetAt index
  add { sheet with name := newName }

/-- The sheet goes first; the active index follows. -/
def remove (index : Nat) : Editing Sheet := do
  let removed ← sheetAt index
  modify fun wb => { wb with sheets := wb.sheets.eraseIdx index }
  modify fun wb => { wb with active := Workbook.activeAfterRemoval wb.active index wb.size }
  return removed

def setText (address : CellAddress) (text : String) : Editing Unit := do
  let wb ← get
  match wb.activeSheet? with
  | some sheet =>
    set { wb with sheets := wb.sheets.set wb.active (sheet.setCell address (.text text)) }
  | none => throw .noActiveSheet

def activateSheet (ref : SheetRef) : Editing Unit := do
  let index ← resolve ref
  activate index

def cloneSheet (source : SheetRef) (newName : String) : Editing Unit := do
  let index ← resolve source
  let copy ← clone index newName
  activate copy

def deleteSheet (ref : SheetRef) : Editing Unit := do
  let index ← resolve ref
  let _ ← remove index

end Editing

inductive WorkbookEdit
  | add (sheet : Sheet)
  | clone (index : Nat) (newName : String)
  | remove (index : Nat)
  | activate (index : Nat)
  | setText (address : CellAddress) (text : String)

inductive EditAnswer
  | done
  | index (index : Nat)
  | removed (sheet : Sheet)

def WorkbookEdit.steps : WorkbookEdit → Editing EditAnswer
  | .add sheet => return .index (← Editing.add sheet)
  | .clone index newName => return .index (← Editing.clone index newName)
  | .remove index => return .removed (← Editing.remove index)
  | .activate index => do
    Editing.activate index
    return .done
  | .setText address text => do
    Editing.setText address text
    return .done

namespace Workbook

def perform (wb : Workbook) (e : WorkbookEdit) : Except Error EditAnswer × Workbook :=
  e.steps.run wb

def performAll (wb : Workbook) (edits : List WorkbookEdit) : Workbook :=
  edits.foldl (fun wb e => (wb.perform e).2) wb

def edit (wb : Workbook) : WorkbookEdit → Except Error (EditAnswer × Workbook)
  | .add sheet => (wb.add sheet).map fun (index, wb) => (.index index, wb)
  | .clone index newName => (wb.clone index newName).map fun (index, wb) => (.index index, wb)
  | .remove index => (wb.remove index).map fun (sheet, wb) => (.removed sheet, wb)
  | .activate index => (wb.activate index).map fun wb => (.done, wb)
  | .setText address text => (wb.setText address text).map fun wb => (.done, wb)

end Workbook

end ReportSheets
