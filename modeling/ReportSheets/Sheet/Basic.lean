import ReportSheets.Sheet.Layout

namespace ReportSheets

inductive CellValue
  | text (text : String)
  | number (number : Binary64)
  | bool (value : Bool)
  /-- A formula without its leading equals sign. -/
  | formula (formula : String)
deriving DecidableEq

def CellValue.text? : CellValue → Option String
  | .text s => some s
  | _ => none

structure Sheet where
  name : String
  cells : SortedMap CellAddress CellValue := .empty
  layout : Layout := {}
deriving DecidableEq

namespace Sheet

def setCell (sheet : Sheet) (address : CellAddress) (value : CellValue) : Sheet :=
  { sheet with cells := sheet.cells.insert address value }

def cell? (sheet : Sheet) (address : CellAddress) : Option CellValue := sheet.cells.get? address

end Sheet

/-- Sheet names are alike when they differ in the case of ASCII letters alone. -/
def sameName (a b : String) : Bool := a.toList.map Char.toLower == b.toList.map Char.toLower

def forbiddenInName : List Char := "*?:[]\\/".toList

def nameFault? (name : String) : Option SheetNameFault :=
  let chars := name.toList
  if chars = [] then some .blank
  else if 31 < chars.length then some .tooLong
  else if chars.any forbiddenInName.contains then some .invalidCharacter
  else if chars.head? = some '\'' ∨ chars.getLast? = some '\'' then some .apostrophe
  else none

end ReportSheets
