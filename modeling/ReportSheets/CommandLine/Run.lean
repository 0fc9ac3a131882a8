import ReportSheets.CommandLine.Arguments
import ReportSheets.CommandLine.Output
import ReportSheets.Report.Create
import ReportSheets.Settings.Reading

namespace ReportSheets.CommandLine

structure Result where
  output : String := ""
  failure : Option Failure := none

namespace Result

def failed (failure : Failure) : Result := { failure := some failure }

def after (text : String) (result : Result) : Result :=
  { result with output := text ++ result.output }

end Result

structure Ending where
  exitCode : Nat
  output : String := ""
  errors : String := ""

namespace Ending

def ofResult (result : Result) : Ending :=
  match result.failure with
  | none => { exitCode := 0, output := result.output }
  | some failure => { exitCode := 1, output := result.output, errors := failure.text }

def ofStop : Stop → Ending
  | .help => { exitCode := 0, output := usageText }
  | .version => { exitCode := 0, output := versionText }
  | .misuse => { exitCode := 2, errors := usageText }

end Ending

inductive Work
  | done (result : Result)
  | publish (folder : String) (book : SavedBook) (next : Except Error String → Result)

def Work.finish (publish : String → SavedBook → Except Error String) : Work → Result
  | .done result => result
  | .publish folder book next => next (publish folder book)

/-- The folders of a settings file give way to those that are named. -/
def FolderChoice.settings (folders : FolderChoice) (files : Files) : Except Failure Settings := do
  let settings ← match folders.settingsFile with
    | none => pure {}
    | some path =>
      match (files.readText path).bind Settings.parse with
      | .ok settings => pure settings
      | .error e => throw (.ofSettings path e)
  return settings.override folders.output folders.forms folders.templates

def generate (files : Files) (settings : Settings) (verbose : Bool) (dataFile format : String) :
    Work :=
  let start := startText verbose settings dataFile format
  let kind := OutputFormat.ofName format
  let supplies : Supplies Unit := ⟨settings.template files, settings.forms files⟩
  match (outputReport supplies files dataFile kind ()).1 with
  | .error e => .done (.after start (.failed (.ofReport dataFile e)))
  | .ok none => .done { output := start ++ noReportText kind }
  | .ok (some book) =>
    .publish settings.outputFolder book fun
      | .ok path => { output := start ++ createdText path }
      | .error e => .after start (.failed (.ofReport dataFile e))

def listFields (files : Files) (settings : Settings) : List String → Result
  | [] => {}
  | form :: forms =>
    let formFile := formFileName form
    match settings.fields files formFile with
    | .error e => .failed (.ofError e)
    | .ok fields =>
      .after (formText formFile (.ofFields fields)) (listFields files settings forms)

def eval (verbose : Bool) (formula field value : String) : Result :=
  let start := if verbose then (Expr.parse formula).map fun e => lines [exprLine e] else .ok ""
  match start, (Field.mk field "" formula).cellText value with
  | .error e, _ => .failed (.ofError e)
  | .ok start, .error e => .after start (.failed (.ofError e))
  | .ok start, .ok text => { output := start ++ lines [text] }

def Request.work (files : Files) (request : Request) : Work :=
  let withSettings := fun (folders : FolderChoice) (next : Settings → Work) =>
    match folders.settings files with
    | .ok settings => next settings
    | .error failure => .done (.failed failure)
  match request.task with
  | .generate dataFile format folders =>
    withSettings folders fun settings => generate files settings request.verbose dataFile format
  | .fields forms folders =>
    withSettings folders fun settings => .done (listFields files settings forms)
  | .eval formula field value => .done (eval request.verbose formula field value)

def run (files : Files) (publish : String → SavedBook → Except Error String)
    (environment : String → Option String) (words : List String) : Ending :=
  match Request.read environment words with
  | .ok request => .ofResult ((request.work files).finish publish)
  | .error stop => .ofStop stop

end ReportSheets.CommandLine
