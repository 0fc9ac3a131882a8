import ReportSheets.Files.Path

namespace ReportSheets

structure Settings where
  outputFolder : String := "./testdata/report"
  formFolder : String := "./testdata/xml"
  templateFolder : String := "./testdata/template"
deriving DecidableEq

namespace Settings

def override (settings : Settings) (output forms templates : Option String) : Settings where
  outputFolder := output.getD settings.outputFolder
  formFolder := forms.getD settings.formFolder
  templateFolder := templates.getD settings.templateFolder

def templatePath (settings : Settings) (name : String) : String :=
  Path.join settings.templateFolder name

def formPath (settings : Settings) (formFile : String) : String :=
  Path.join settings.formFolder formFile

end Settings

end ReportSheets
