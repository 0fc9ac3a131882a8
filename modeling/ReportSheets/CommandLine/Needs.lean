import ReportSheets.Command.Reading
import ReportSheets.CommandLine.Arguments
import ReportSheets.Data.Lines
import ReportSheets.Settings.Basic

namespace ReportSheets

def Settings.pathsOf (settings : Settings) : Command → List String
  | .setForm formFile _ => [settings.formPath formFile]
  | .onSheets (.load template) => [settings.templatePath template]
  | .onSheets _ => []

def Settings.pathsIn (settings : Settings) (lines : List RawLine) : List String :=
  lines.flatMap fun
    | .utf8 line =>
      match Command.parse line with
      | .ok command => settings.pathsOf command
      | .error _ => []
    | .notUtf8 => []

namespace CommandLine

def Task.folders? : Task → Option FolderChoice
  | .generate _ _ folders => some folders
  | .fields _ folders => some folders
  | .eval .. => none

def Task.settingsFile? (task : Task) : Option String :=
  task.folders?.bind FolderChoice.settingsFile

def Task.dataFile? : Task → Option String
  | .generate dataFile _ _ => some dataFile
  | _ => none

def Task.formPaths (settings : Settings) : Task → List String
  | .fields forms _ => forms.map fun form => settings.formPath (formFileName form)
  | _ => []

end CommandLine

end ReportSheets
