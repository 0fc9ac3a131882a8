namespace ReportSheets

structure DataRow where
  columns : List (String × String)
deriving DecidableEq

namespace DataRow

/-- Pairs names with values; what is surplus on either side is dropped. -/
def ofRecord (header values : List String) : DataRow := ⟨header.zip values⟩

def get? (row : DataRow) (column : String) : Option String :=
  (row.columns.find? fun entry => entry.1 == column).map (·.2)

def size (row : DataRow) : Nat := row.columns.length

end DataRow

end ReportSheets
