import ReportSheets.Form.Document
import ReportSheets.Report.Generate
import ReportSheets.Settings.Basic
import ReportSheets.Template.Import

namespace ReportSheets

namespace Settings

def fields (settings : Settings) (files : Files) (formFile : String) :
    Except Error (List Field) :=
  let path := settings.formPath formFile
  if files.isFile path then (files.readText path).bind Field.readAll
  else .error (.formMissing path)

def forms {σ : Type} (settings : Settings) (files : Files) : FieldSource σ where
  load formFile state := (settings.fields files formFile, state)

def template (settings : Settings) (files : Files) (name : String) : Except Error Workbook :=
  let path := settings.templatePath name
  match files path with
  | .ok content => content.workbook path
  | .error _ => .error (.templateMissing path)

end Settings

def createReport {σ : Type} (supplies : Supplies σ) (files : Files) (dataFile : String)
    (state : σ) : Except Error (Option SavedBook) × σ :=
  match files dataFile with
  | .error _ => (.error (.dataFileMissing dataFile), state)
  | .ok content =>
    let (report, state) := generateReport supplies { lines := content.lines } state
    (report.bind fun workbook => workbook.mapM Workbook.save, state)

/-- Only the templated format makes a report. -/
def outputReport {σ : Type} (supplies : Supplies σ) (files : Files) (dataFile : String)
    (format : OutputFormat) (state : σ) : Except Error (Option SavedBook) × σ :=
  match format with
  | .excel => createReport supplies files dataFile state
  | .other _ => (.ok none, state)

/-- `mark` tells one report from the others. -/
def reportFileName (mark : String) : String := "report_" ++ mark ++ ".xlsx"

def FileTree.publish (tree : FileTree) (folder mark : String) (book : SavedBook) :
    Except Error (FileTree × List String) := do
  let (tree, folder) ← tree.makeFolder folder
  let names := folder ++ [reportFileName mark]
  return (tree.putFile names (.book book), names)

end ReportSheets
