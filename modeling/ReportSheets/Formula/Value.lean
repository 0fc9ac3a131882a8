import ReportSheets.Calendar.Date
import ReportSheets.Number.Plain
import ReportSheets.Number.Reading

namespace ReportSheets

inductive Value
  | text (text : String)
  | number (number : Binary64)
  | date (date : Date)
  /-- No value: a text that is no date, or a call of an unknown function. -/
  | absent
deriving DecidableEq

inductive ValueType
  | text
  | number
  | date
  | absent
deriving DecidableEq

def ValueType.name : ValueType → String
  | .text => "text"
  | .number => "number"
  | .date => "date"
  | .absent => "absent"

namespace Binary64

def isBelow (limit : Nat) (n : Int) : Bool := n.natAbs < limit

def integerLimit : Nat := 1000000000000000

/-- A number as cell text: whole numbers below the limit as integers, others with their digits. -/
def cellText (n : Binary64) : List Char :=
  match n.integer? with
  | some whole => if isBelow integerLimit whole then Text.integer whole else n.text
  | none => n.text

end Binary64

namespace Value

def type : Value → ValueType
  | .text _ => .text
  | .number _ => .number
  | .date _ => .date
  | .absent => .absent

def cellText : Value → String
  | .text s => s
  | .number n => String.ofList n.cellText
  | .date d => String.ofList d.text
  | .absent => ""

end Value

end ReportSheets
