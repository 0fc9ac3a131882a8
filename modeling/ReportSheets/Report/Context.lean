import ReportSheets.Data.Reader
import ReportSheets.Form.Registry
import ReportSheets.Workbook.Basic

namespace ReportSheets

structure Context where
  reader : Reader
  formFile : Option String := none
  mode : Int := 0
  workbook : Option Workbook := none
  registries : RegistryCache := .empty

structure Supplies (σ : Type) where
  template : String → Except Error Workbook
  forms : FieldSource σ

inductive OutputFormat
  | excel
  | other (name : String)
deriving DecidableEq

namespace OutputFormat

def excelName : String := "EXCEL"

def ofName (name : String) : OutputFormat := if name = excelName then .excel else .other name

end OutputFormat

end ReportSheets
