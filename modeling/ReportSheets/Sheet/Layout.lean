import ReportSheets.Number.Binary64
import ReportSheets.Sheet.Address

namespace ReportSheets

structure MergedRange where
  first : CellAddress
  last : CellAddress
deriving DecidableEq

namespace MergedRange

def contains (r : MergedRange) (a : CellAddress) : Bool :=
  r.first.row ≤ a.row && a.row ≤ r.last.row && r.first.col ≤ a.col && a.col ≤ r.last.col

def overlaps (r s : MergedRange) : Bool :=
  r.first.row ≤ s.last.row && s.first.row ≤ r.last.row &&
    r.first.col ≤ s.last.col && s.first.col ≤ r.last.col

end MergedRange

structure ColumnWidth where
  first : Nat
  last : Nat
  width : Binary64
deriving DecidableEq

namespace ColumnWidth

def maxPixels : Nat := 65535

def pixelsOf (width : Binary64) : Nat := (width.scaleBy 7).roundedTo maxPixels

def pixels (c : ColumnWidth) : Nat := pixelsOf c.width

end ColumnWidth

structure Layout where
  merged : List MergedRange := []
  columns : List ColumnWidth := []
  rowHeights : SortedMap Nat Binary64 := .empty
deriving DecidableEq

end ReportSheets
