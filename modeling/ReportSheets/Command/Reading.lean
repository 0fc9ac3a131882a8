import ReportSheets.Command.Basic
import ReportSheets.Error
import ReportSheets.Text.Blank

namespace ReportSheets

namespace SheetRef

def leastNumber : Int := -9223372036854775808

def greatestNumber : Int := 9223372036854775807

def read (token : List Char) : Except Error SheetRef :=
  match Text.after? nameMark token with
  | some sheet => .ok (.name (String.ofList sheet))
  | none =>
    match Text.after? numberMark token with
    | some digits =>
      match Text.readInteger? leastNumber greatestNumber digits with
      | some n => .ok (.number n)
      | none => .error (.sheetNumber (String.ofList digits))
    | none => .error (.sheetReference (String.ofList token))

def parse (token : String) : Except Error SheetRef := read token.toList

end SheetRef

namespace SheetCommand

def readParameters (verb : SheetVerb) (first : List Char) (more : List (List Char)) :
    Except Error SheetCommand :=
  match verb with
  | .load => .ok (.load (String.ofList first))
  | .activate => (SheetRef.read first).map .activate
  | .delete => (SheetRef.read first).map .delete
  | .clone => do
    let source ← SheetRef.read first
    match more.head?.bind (Text.after? newNameMark) with
    | some newName => return .clone source (String.ofList newName)
    | none => throw (.cloneTarget source.text)

def read (parameter : List Char) : Except Error SheetCommand :=
  match Text.words parameter with
  | verb :: first :: more =>
    match SheetVerb.named? (String.ofList verb) with
    | some verb => readParameters verb first more
    | none => .error (.unknownSheetCommand (String.ofList verb))
  | _ => .error (.sheetCommandShape (String.ofList parameter))

end SheetCommand

namespace Command

def leastMode : Int := -2147483648

def greatestMode : Int := 2147483647

def readForm (parameter : List Char) : Except Error Command :=
  match Text.pieces (· == ',') parameter with
  | [form, mode] =>
    if form = [] then .error .formNameEmpty
    else
      match Text.readInteger? leastMode greatestMode (Text.trim mode) with
      | some n => .ok (.setForm (formFileName (String.ofList form)) n)
      | none => .error (.modeNotInteger (String.ofList mode))
  | _ => .error (.formShape (String.ofList parameter))

def read (line : List Char) : Except Error Command :=
  match Text.cutAt '=' line with
  | none => .error (.commandShape (String.ofList line))
  | some (verb, parameter) =>
    if verb = formVerb.toList then readForm parameter
    else if verb = sheetsVerb.toList then (SheetCommand.read parameter).map .onSheets
    else .error (.unknownVerb (String.ofList verb))

def parse (line : String) : Except Error Command := read line.toList

end Command

end ReportSheets
