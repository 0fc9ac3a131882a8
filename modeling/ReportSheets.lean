import ReportSheets.Main
import ReportSheets.Workbook.Edit
import ReportSheets.Proofs.Outcome
import ReportSheets.Proofs.Text.Blank
import ReportSheets.Proofs.Text.Words
import ReportSheets.Proofs.Text.Level
import ReportSheets.Proofs.Text.Lowercase
import ReportSheets.Proofs.Text.Digits
import ReportSheets.Proofs.Number.Whole
import ReportSheets.Proofs.Number.Rounding
import ReportSheets.Proofs.Number.Layout
import ReportSheets.Proofs.Number.Pattern
import ReportSheets.Proofs.Number.Rendered
import ReportSheets.Proofs.Number.Quoted
import ReportSheets.Proofs.Number.FieldPattern
import ReportSheets.Proofs.Number.Grammar
import ReportSheets.Proofs.Number.Overflow
import ReportSheets.Proofs.Number.Grouping
import ReportSheets.Proofs.Number.Sign
import ReportSheets.Proofs.Calendar.Written
import ReportSheets.Proofs.Calendar.Eras
import ReportSheets.Proofs.Command.Written
import ReportSheets.Proofs.Formula.Parts
import ReportSheets.Proofs.Formula.Balance
import ReportSheets.Proofs.Formula.Writings
import ReportSheets.Proofs.Formula.OwnName
import ReportSheets.Proofs.Formula.Substitution
import ReportSheets.Proofs.Formula.Failure
import ReportSheets.Proofs.Formula.Dates
import ReportSheets.Proofs.Formula.Literals
import ReportSheets.Proofs.Formula.Types
import ReportSheets.Proofs.Formula.EraYears
import ReportSheets.Proofs.Formula.WholeNumbers
import ReportSheets.Proofs.Xml.Reference
import ReportSheets.Proofs.Xml.Markup
import ReportSheets.Proofs.Xml.Tags
import ReportSheets.Proofs.Xml.Numbered
import ReportSheets.Proofs.Form.Tree
import ReportSheets.Proofs.Form.Registry
import ReportSheets.Proofs.Form.Loads
import ReportSheets.Proofs.Data.Lines
import ReportSheets.Proofs.Data.Position
import ReportSheets.Proofs.Data.Steps
import ReportSheets.Proofs.Data.Quoted
import ReportSheets.Proofs.Data.Written
import ReportSheets.Proofs.Data.BlankLines
import ReportSheets.Proofs.Data.Alike
import ReportSheets.Proofs.Data.LineEndings
import ReportSheets.Proofs.Data.RowByRow
import ReportSheets.Proofs.Sheet.SortedMap
import ReportSheets.Proofs.Sheet.Address
import ReportSheets.Proofs.Workbook.InPlace
import ReportSheets.Proofs.Workbook.Edited
import ReportSheets.Proofs.Workbook.Tagged
import ReportSheets.Proofs.Workbook.Saving
import ReportSheets.Proofs.Workbook.Names
import ReportSheets.Proofs.Workbook.References
import ReportSheets.Proofs.Workbook.Columns
import ReportSheets.Proofs.Workbook.Layouts
import ReportSheets.Proofs.Workbook.SavedFormula
import ReportSheets.Proofs.Workbook.Reread
import ReportSheets.Proofs.Workbook.Carried
import ReportSheets.Proofs.Workbook.Settled
import ReportSheets.Proofs.Report.Commands
import ReportSheets.Proofs.Report.Binding
import ReportSheets.Proofs.Report.Writes
import ReportSheets.Proofs.Report.Failure
import ReportSheets.Proofs.Report.SheetCommands
import ReportSheets.Proofs.Report.Outline
import ReportSheets.Proofs.Report.Generate
import ReportSheets.Proofs.Report.ActiveSheet
import ReportSheets.Proofs.Report.Addressing
import ReportSheets.Proofs.Report.Forms
import ReportSheets.Proofs.Report.Prerequisites
import ReportSheets.Proofs.Report.BlankLines
import ReportSheets.Proofs.Template.Tags
import ReportSheets.Proofs.Template.Sheets
import ReportSheets.Proofs.Template.Dimensions
