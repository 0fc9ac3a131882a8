import ReportSheets.Text.Integer

namespace ReportSheets

/-- A sheet named or numbered; the number counts from zero and may be out of range. -/
inductive SheetRef
  | name (name : String)
  | number (n : Int)
deriving DecidableEq

namespace SheetRef

def nameMark : List Char := "NAME=".toList

def numberMark : List Char := "NO=".toList

def written : SheetRef → List Char
  | .name sheet => nameMark ++ sheet.toList
  | .number n => numberMark ++ Text.integer n

def text (ref : SheetRef) : String := String.ofList ref.written

end SheetRef

inductive SheetCommand
  | load (template : String)
  | activate (sheet : SheetRef)
  | clone (source : SheetRef) (newName : String)
  | delete (sheet : SheetRef)
deriving DecidableEq

inductive SheetVerb
  | load
  | activate
  | clone
  | delete
deriving DecidableEq

namespace SheetVerb

def name : SheetVerb → String
  | .load => "XSFN"
  | .activate => "XSSA"
  | .clone => "XSSC"
  | .delete => "XSSD"

def all : List SheetVerb := [.load, .activate, .clone, .delete]

def named? (name : String) : Option SheetVerb := all.find? fun verb => verb.name == name

theorem named?_name (verb : SheetVerb) : named? verb.name = some verb := by cases verb <;> rfl

end SheetVerb

inductive Command
  | setForm (formFile : String) (mode : Int)
  | onSheets (command : SheetCommand)
deriving DecidableEq

def formExtension : List Char := ".xml".toList

def formFileName (form : String) : String :=
  if formExtension.isSuffixOf form.toList then form
  else String.ofList (form.toList ++ formExtension)

namespace SheetCommand

def newNameMark : List Char := "CHANGE=".toList

def verb : SheetCommand → SheetVerb
  | .load _ => .load
  | .activate _ => .activate
  | .clone .. => .clone
  | .delete _ => .delete

def parameters : SheetCommand → List (List Char)
  | .load template => [template.toList]
  | .activate sheet => [sheet.written]
  | .clone source newName => [source.written, newNameMark ++ newName.toList]
  | .delete sheet => [sheet.written]

end SheetCommand

namespace Command

def formVerb : String := "VrSetForm"

def sheetsVerb : String := "VrComout"

def written : Command → List Char
  | .setForm formFile mode => formVerb.toList ++ '=' :: formFile.toList ++ ',' :: Text.integer mode
  | .onSheets command =>
    sheetsVerb.toList ++ '=' :: command.verb.name.toList ++
      command.parameters.flatMap fun parameter => ' ' :: parameter

end Command

end ReportSheets
