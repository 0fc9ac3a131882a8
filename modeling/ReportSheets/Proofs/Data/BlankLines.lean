import ReportSheets.Proofs.Data.Steps

namespace ReportSheets

namespace Csv

theorem extendFirst_ne_nil (c : Char) (fields : List (List Char)) : extendFirst c fields ≠ [] := by
  cases fields <;> nofun

theorem fields_ne_nil (state : FieldState) (text : List Char) : fields state text ≠ [] := by
  fun_induction fields state text with
  | case1 => nofun
  | case2 => assumption
  | case3 => exact extendFirst_ne_nil _ _
  | case4 => assumption
  | case5 => exact extendFirst_ne_nil _ _
  | case6 => nofun
  | case7 => nofun
  | case8 => exact extendFirst_ne_nil _ _

theorem values_ne_nil {line : String} {values : List String}
    (record : tokenize.record line = some values) : values ≠ [] := by
  obtain ⟨fields, held, rfl⟩ := Option.map_eq_some_iff.mp record
  unfold record? at held
  split at held
  · cases held
  · cases held
    simp [fields_ne_nil]

end Csv

def Recordless (line : String) : Prop := Csv.tokenize.record line = none

theorem recordless_empty : Recordless "" := rfl

theorem not_recordless_start : ¬ Recordless startMarker := nofun

/-- The second lines are the first ones with blank lines put in anywhere. -/
inductive Spaced : List String → List String → Prop
  | nil : Spaced [] []
  | blank {line : String} {lines spaced : List String} (empty : Recordless line)
      (more : Spaced lines spaced) : Spaced lines (line :: spaced)
  | line {line : String} {lines spaced : List String} (more : Spaced lines spaced) :
      Spaced (line :: lines) (line :: spaced)

def Headed (data : List String) : Prop :=
  ∃ header lines, data = header :: lines ∧ ¬ Recordless header

def recordCount (data : List String) : Nat := (data.filterMap Csv.tokenize.record).length

variable {data spaced header : List String} {line : String}

theorem headed_cons {lines : List String} : Headed (line :: lines) ↔ ¬ Recordless line := by
  constructor
  · rintro ⟨first, rest, same, named⟩
    cases same
    exact named
  · intro named
    exact ⟨line, lines, rfl, named⟩

theorem not_headed_cons {lines : List String} : ¬ Headed (line :: lines) ↔ Recordless line := by
  rw [headed_cons, Classical.not_not]

theorem rowsUnder_cons_recordless (empty : Recordless line) (lines : List String) :
    rowsUnder Csv.tokenize header (line :: lines) = rowsUnder Csv.tokenize header lines := by
  rw [rowsUnder, List.filterMap_cons, show Csv.tokenize.record line = none from empty]
  rfl

theorem headerOf_of_not_headed (unnamed : ¬ Headed data) : headerOf Csv.tokenize data = [] := by
  cases data with
  | nil => rfl
  | cons line lines =>
    have empty : Csv.tokenize.record line = none := not_headed_cons.1 unnamed
    rw [headerOf, empty]
    rfl

theorem headerOf_of_headed (named : Headed data) : headerOf Csv.tokenize data ≠ [] := by
  obtain ⟨line, lines, rfl, named⟩ := named
  obtain ⟨values, record⟩ := Option.ne_none_iff_exists'.mp named
  rw [headerOf, record]
  exact Csv.values_ne_nil record

/-- Without a header every record makes a row, of no columns. -/
theorem rowsOf_of_not_headed (unnamed : ¬ Headed data) :
    rowsOf Csv.tokenize data = rowsUnder Csv.tokenize [] data := by
  rw [rowsOf, headerOf_of_not_headed unnamed]
  cases data with
  | nil => rfl
  | cons line lines => exact (rowsUnder_cons_recordless (not_headed_cons.1 unnamed) lines).symm

theorem rowsUnder_nil (data : List String) :
    rowsUnder Csv.tokenize [] data = List.replicate (recordCount data) ⟨[]⟩ := by
  rw [rowsUnder, ← List.map_filterMap, recordCount, List.eq_replicate_iff, List.length_map]
  refine ⟨rfl, ?_⟩
  intro row member
  obtain ⟨values, -, rfl⟩ := List.mem_map.mp member
  rfl

theorem parts_append {rest : List String} (inside : startMarker ∉ data)
    (stops : rest = [] ∨ rest.head? = some startMarker) :
    dataPart (data ++ rest) = data ∧ afterData (data ++ rest) = rest := by
  rcases stops with rfl | stops
  · rw [List.append_nil]
    exact ⟨dataPart_unmarked inside, afterData_unmarked inside⟩
  · obtain ⟨more, rfl⟩ := List.head?_eq_some_iff.mp stops
    exact ⟨dataPart_append_start inside more, afterData_append_start inside more⟩

namespace Spaced

theorem start_not_mem (inserted : Spaced data spaced) (inside : startMarker ∉ data) :
    startMarker ∉ spaced := by
  induction inserted with
  | nil => exact inside
  | blank empty more ih =>
    rw [List.mem_cons, not_or]
    exact ⟨fun same => not_recordless_start (same ▸ empty), ih inside⟩
  | line more ih =>
    rw [List.mem_cons, not_or] at inside ⊢
    exact ⟨inside.1, ih inside.2⟩

theorem rowsUnder_eq (inserted : Spaced data spaced) (header : List String) :
    rowsUnder Csv.tokenize header spaced = rowsUnder Csv.tokenize header data := by
  induction inserted with
  | nil => rfl
  | blank empty more ih => rw [rowsUnder_cons_recordless empty, ih]
  | @line line lines spaced more ih =>
    rw [rowsUnder, rowsUnder, List.filterMap_cons, List.filterMap_cons]
    rw [rowsUnder, rowsUnder] at ih
    rw [ih]

theorem header_rows_eq (inserted : Spaced data spaced) (named : Headed data → Headed spaced) :
    headerOf Csv.tokenize spaced = headerOf Csv.tokenize data ∧
      rowsOf Csv.tokenize spaced = rowsOf Csv.tokenize data := by
  by_cases headed : Headed spaced
  · cases inserted with
    | nil => exact ⟨rfl, rfl⟩
    | blank empty more => exact absurd empty (headed_cons.1 headed)
    | line more => exact ⟨rfl, more.rowsUnder_eq _⟩
  · have unnamed : ¬ Headed data := fun before => headed (named before)
    rw [headerOf_of_not_headed headed, headerOf_of_not_headed unnamed,
      rowsOf_of_not_headed headed, rowsOf_of_not_headed unnamed]
    exact ⟨rfl, inserted.rowsUnder_eq []⟩

/-- After a blank line before the header there are no columns: the header is one of the rows. -/
theorem rowsOf_of_lost_header (inserted : Spaced data spaced) (lost : ¬ Headed spaced) :
    rowsOf Csv.tokenize spaced = List.replicate (recordCount data) ⟨[]⟩ := by
  rw [rowsOf_of_not_headed lost, inserted.rowsUnder_eq, rowsUnder_nil]

end Spaced

end ReportSheets
