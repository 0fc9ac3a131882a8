import ReportSheets.Error
import ReportSheets.Settings.Basic
import ReportSheets.Text.Blank
import ReportSheets.Yaml.Document

namespace ReportSheets.Settings

inductive Folder
  | output
  | forms
  | templates
deriving DecidableEq

def Folder.ofKey? (key : List Char) : Option Folder :=
  if key = "output_dir".toList then some .output
  else if key = "xml_dir".toList then some .forms
  else if key = "template_dir".toList then some .templates
  else none

def setFolder (settings : Settings) (folder : Folder) (path : String) : Settings :=
  match folder with
  | .output => { settings with outputFolder := path }
  | .forms => { settings with formFolder := path }
  | .templates => { settings with templateFolder := path }

/-- The settings after the entries of a mapping; `seen` are the folders given before. Every key is a
text, and so is the value of a folder. -/
def ofEntries? (document : Yaml.Document) (settings : Settings) (seen : List Folder) :
    List (Yaml.Node × Yaml.Node) → Option Settings
  | [] => some settings
  | (key, value) :: more => do
    let key ← document.text? key
    match Folder.ofKey? key with
    | none => ofEntries? document settings seen more
    | some folder =>
      let path ← document.text? value
      if folder ∈ seen then none
      else
        ofEntries? document (settings.setFolder folder (String.ofList path)) (folder :: seen) more

/-- A document in which nothing is written leaves the settings as they are by default. -/
def ofDocument? (document : Yaml.Document) : Option Settings :=
  match document.root with
  | .empty => some {}
  | .mapping entries => ofEntries? document {} [] entries
  | _ => none

def parse (text : String) : Except Error Settings :=
  let found := if text.toList.all Text.isBlank then some {}
    else (Yaml.Document.ofText? text).bind ofDocument?
  match found with
  | some settings => .ok settings
  | none => .error .configuration

end ReportSheets.Settings
