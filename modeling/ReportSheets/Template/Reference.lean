import ReportSheets.Sheet.Layout

namespace ReportSheets.Template

/-- One more than the greatest row or column. -/
def wordSize : Nat := 4294967296

def rowAndColumn? (reference : List Char) : Option (Nat × Option Nat) :=
  let letters := reference.takeWhile CellAddress.isLetter
  match (Text.readNatural? (reference.dropWhile CellAddress.isLetter)).map (· % wordSize) with
  | none => none
  | some 0 => none
  | some (row + 1) =>
    let column := CellAddress.columnNumber letters % wordSize
    some (row, if column = 0 then none else some (column - 1))

def row? (reference : List Char) : Option Nat := (rowAndColumn? reference).map (·.1)

def address? (reference : List Char) : Option CellAddress :=
  (rowAndColumn? reference).bind fun (row, column) => column.map fun col => ⟨row, col⟩

def range? (reference : List Char) : Option MergedRange :=
  match Text.pieces (· == ':') reference with
  | [cell] => (address? cell).map fun a => ⟨a, a⟩
  | [first, last] => do
    let first ← address? first
    let last ← address? last
    return ⟨first, last⟩
  | _ => none

def maxIndex : Nat := 18446744073709551615

def maxIndexDigits : Nat := 20

/-- The place of something in a table: digits alone, no more of them than the greatest place has. -/
def index? (text : List Char) : Option Nat :=
  if maxIndexDigits < text.length then none else (Text.readNatural? text).filter (· ≤ maxIndex)

def maxColumn : Nat := 65535

end ReportSheets.Template
