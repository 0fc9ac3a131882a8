import ReportSheets.Calendar.Era
import ReportSheets.Formula.Value
import ReportSheets.Number.Rendering

namespace ReportSheets

namespace Date

def read? (text : String) : Except Error (Option Date) :=
  match slashed? text.toList with
  | none => .ok none
  | some (year, month, day) =>
    match ofYmd? year month day with
    | some date => .ok (some date)
    | none => .error (.notCalendarDate text)

def eraYear (date : Date) : Except Error (String × Nat) :=
  match Era.of? date with
  | some era => .ok (era.name, era.yearOf date)
  | none => .error (.beforeEras date)

def eraText (date : Date) : Except Error String :=
  date.eraYear.map fun (name, year) => name ++ String.ofList (Text.natural year) ++ "年"

end Date

inductive Function
  | nengo
  | ctod
  | wyear
  | format
deriving DecidableEq

namespace Function

def name : Function → String
  | .nengo => "NENGO"
  | .ctod => "CTOD"
  | .wyear => "WYEAR"
  | .format => "FORMAT"

def all : List Function := [.nengo, .ctod, .wyear, .format]

/-- Names are matched exactly, letter case included. -/
def named? (name : String) : Option Function := all.find? fun f => f.name == name

theorem named?_name (f : Function) : named? f.name = some f := by cases f <;> rfl

def arity : Function → Nat
  | .format => 2
  | _ => 1

def expected : Function → String
  | .nengo | .wyear => "date"
  | .ctod => "text"
  | .format => "number and text"

def typeError (f : Function) (args : List Value) : Error :=
  .argumentTypes f.name f.expected (args.map fun v => v.type.name)

def ofDate (text : String) : Except Error Value :=
  (Date.read? text).map fun
    | some date => .date date
    | none => .absent

def apply (f : Function) (args : List Value) : Except Error Value :=
  if args.length ≠ f.arity then .error (.argumentCount f.name f.arity args.length)
  else
    match f, args with
    | .nengo, [.date date] => date.eraText.map .text
    | .wyear, [.date date] => date.eraYear.map fun (_, year) => .number (.ofNat year)
    | .ctod, [.text text] => ofDate text
    | .ctod, [.number number] => ofDate (String.ofList number.cellText)
    | .ctod, [.absent] => .ok .absent
    | .format, [.number number, .text pattern] => (formatNumber number pattern).map .text
    | f, args => .error (f.typeError args)

end Function

end ReportSheets
