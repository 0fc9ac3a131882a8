import ReportSheets.Calendar.Date

namespace ReportSheets

structure Era where
  name : String
  start : Date
deriving DecidableEq

namespace Era

def all : List Era := [
  ⟨"明治", 1868, 1, 1, by decide⟩,
  ⟨"大正", 1912, 7, 30, by decide⟩,
  ⟨"昭和", 1926, 12, 25, by decide⟩,
  ⟨"平成", 1989, 1, 8, by decide⟩,
  ⟨"令和", 2019, 5, 1, by decide⟩]

/-- The era that a day lies in: the last one begun by then. -/
def of? (d : Date) : Option Era := all.reverse.find? fun era => era.start ≤ d

def yearOf (era : Era) (d : Date) : Nat := (d.year - era.start.year).toNat + 1

end Era

end ReportSheets
