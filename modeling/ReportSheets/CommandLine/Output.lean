import ReportSheets.Command.Basic
import ReportSheets.Form.Registry
import ReportSheets.Report.Context
import ReportSheets.Settings.Basic
import ReportSheets.Text.Quoted

namespace ReportSheets.CommandLine

def lines (texts : List String) : String := String.join (texts.map (· ++ "\n"))

structure Failure where
  summary : String
  causes : List String
deriving DecidableEq

/-- Texts of the system are a cause of their own. -/
def causesOf (e : Error) : List String :=
  if e.kind = .io then [e.message, e.detail] else [e.message]

def category (e : Error) : String := "[" ++ e.kind.name ++ "]"

namespace Failure

def ofError (e : Error) : Failure := ⟨category e, causesOf e⟩

def ofSettings (path : String) (e : Error) : Failure :=
  ⟨s!"Failed to load config '{path}'", causesOf e⟩

def ofReport (dataFile : String) (e : Error) : Failure :=
  ⟨s!"Report generation failed for '{dataFile}'", category e :: causesOf e⟩

def indented (indent : String) (text : String) : String :=
  (("\n" ++ indent).intercalate ((Text.pieces (· == '\n') text.toList).map String.ofList))

def numbered (cause : String × Nat) : String :=
  let number := String.ofList (Text.natural cause.2)
  let space := String.ofList (List.replicate (5 - number.length) ' ')
  space ++ number ++ ": " ++ indented "       " cause.1

def causeLines : List String → List String
  | [] => []
  | [cause] => ["", "Caused by:", "    " ++ indented "    " cause]
  | causes => "" :: "Caused by:" :: causes.zipIdx.map numbered

def text (failure : Failure) : String :=
  lines (("Error: " ++ failure.summary) :: causeLines failure.causes)

end Failure

mutual

def exprText : Expr → String
  | .literal text => "Literal(" ++ String.ofList (Text.quoted text.toList) ++ ")"
  | .call name args =>
    "Call \x7b name: " ++ String.ofList (Text.quoted name.toList) ++ ", args: [" ++
      ", ".intercalate (exprTexts args) ++ "] \x7d"

def exprTexts : List Expr → List String
  | [] => []
  | arg :: args => exprText arg :: exprTexts args

end

def exprLine (expr : Expr) : String := "   Expression: " ++ exprText expr

def startText (verbose : Bool) (settings : Settings) (dataFile format : String) : String :=
  lines ([
    "📄 Report Forge - Generating report",
    "   Data file: " ++ dataFile,
    "   Format:    " ++ format] ++
    (if verbose then [
      "   Forms:     " ++ settings.formFolder,
      "   Templates: " ++ settings.templateFolder,
      "   Output:    " ++ settings.outputFolder] else []) ++ [""])

def createdText (path : String) : String := lines ["✅ Report created", "   " ++ path, ""]

def noReportText (format : OutputFormat) : String :=
  match format with
  | .excel => lines ["⚠️  No template requested - use the non-templated output"]
  | .other _ => lines ["⚠️  Not an EXCEL report - use the non-templated output"]

def orDash (text : String) : String := if text = "" then "-" else text

def fieldLine (field : Field) : String :=
  "   " ++ field.name ++ " → " ++ orDash field.location ++ "  " ++ orDash field.formula

def formText (formFile : String) (registry : Registry) : String :=
  let heading := "📋 Form: " ++ formFile
  match registry.byName with
  | [] => lines [heading, "   No fields declared", ""]
  | fields =>
    let count := String.ofList (Text.natural registry.size)
    lines (heading :: fields.map fieldLine ++ ["   " ++ count ++ " field(s)", ""])

def programName : String := "report-forge"

def versionText : String := lines [programName ++ " 1.0.0"]

def usageText : String :=
  lines [
    "Populate Excel report templates from report data files",
    "",
    "Usage: " ++ programName ++ " [-v] generate <DATA_FILE> [-f <FORMAT>] [DIRECTORIES]",
    "       " ++ programName ++ " [-v] fields <FORMS>... [DIRECTORIES]",
    "       " ++ programName ++ " [-v] eval <FORMULA> --field <FIELD> [--value <VALUE>]",
    "",
    "Directories:",
    "  -c, --config <CONFIG>              YAML file with output_dir, xml_dir and template_dir",
    "      --output-dir <OUTPUT_DIR>      where reports are written",
    "      --xml-dir <XML_DIR>            where form definitions are",
    "      --template-dir <TEMPLATE_DIR>  where templates are"]

end ReportSheets.CommandLine
