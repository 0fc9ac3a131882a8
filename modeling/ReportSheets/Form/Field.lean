import ReportSheets.Formula.Evaluation
import ReportSheets.Sheet.Address

namespace ReportSheets

structure Field where
  name : String := ""
  location : String := ""
  /-- Applied to the row's value; the empty formula keeps it. -/
  formula : String := ""
deriving DecidableEq

namespace Field

def cellText (field : Field) (value : String) : Except Error String :=
  if field.formula = "" then .ok value
  else do
    let expr ← Expr.parse field.formula
    let result ← expr.evaluate ⟨field.name, value⟩
    return result.cellText

def address (field : Field) : Except Error CellAddress := CellAddress.parse field.location

end Field

end ReportSheets
