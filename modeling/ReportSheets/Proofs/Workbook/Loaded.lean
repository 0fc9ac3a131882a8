import ReportSheets.Proofs.Outcome
import ReportSheets.Proofs.Sheet.SortedMap
import ReportSheets.Template.Import

namespace ReportSheets

namespace SavedCell

/-- A formula loses one leading equals sign; where it is empty its last result is left. The texts
are given by `read`. -/
def value? (read : String → Option String) : SavedCell → Option CellValue
  | .text s => (read s).map .text
  | .number n => some (.number n)
  | .bool b => some (.bool b)
  | .formula f =>
    if f = "" then some (.number .zero)
    else some (.formula (String.ofList ((Text.after? ['='] f.toList).getD f.toList)))

theorem value?_congr {read other : String → Option String} {cell : SavedCell}
    (same : ∀ s, cell = .text s → read s = other s) : cell.value? read = cell.value? other := by
  cases cell with
  | text s => rw [value?, value?, same s rfl]
  | _ => rfl

theorem exists_of_value?_text {read : String → Option String} {cell : SavedCell} {text : String}
    (comes : cell.value? read = some (.text text)) : ∃ s, cell = .text s ∧ read s = some text := by
  cases cell with
  | text s =>
    obtain ⟨found, reads, made⟩ := Option.map_eq_some_iff.mp comes
    cases made
    exact ⟨s, rfl, reads⟩
  | number n => cases comes
  | bool b => cases comes
  | formula f =>
    rw [value?] at comes
    split at comes <;> cases comes

end SavedCell

namespace SavedSheet

def load (read : String → Option String) (saved : SavedSheet) : Except Error Sheet :=
  let cells := saved.cells.entries.mapM fun entry =>
    (entry.2.value? read).map fun value => (entry.1, value)
  match cells with
  | some cells => .ok { name := saved.name, cells := .ofList cells, layout := saved.layout }
  | none => .error (.templateSheet saved.name)

variable {read other : String → Option String} {saved : SavedSheet} {sheet : Sheet}

theorem load_eq_ok_iff :
    saved.load read = .ok sheet ↔
      (∀ e ∈ saved.cells.entries, (e.2.value? read).isSome) ∧ sheet.name = saved.name ∧
      sheet.cells = saved.cells.filterMapValues (SavedCell.value? read) ∧
      sheet.layout = saved.layout := by
  have each : (∀ e ∈ saved.cells.entries,
      ((e.2.value? read).map fun value => (e.1, value)).isSome) ↔
      ∀ e ∈ saved.cells.entries, (e.2.value? read).isSome := by
    simp only [Option.isSome_map]
  rw [load]
  constructor
  · intro done
    split at done
    · rename_i cells found
      obtain ⟨some, rfl⟩ := mapM_eq_some_iff.mp found
      rw [← Except.ok.inj done]
      exact ⟨each.mp some, rfl, SortedMap.ofList_filterMapValues _ _, rfl⟩
    · cases done
  · rintro ⟨some, name, cells, layout⟩
    obtain ⟨sheetName, sheetCells, sheetLayout⟩ := sheet
    dsimp only at name cells layout
    have found := mapM_eq_some_iff.mpr ⟨each.mpr some, rfl⟩
    rw [name, cells, layout, ← SortedMap.ofList_filterMapValues, found]

theorem load_eq_error (missing : ¬ ∀ e ∈ saved.cells.entries, (e.2.value? read).isSome) :
    saved.load read = .error (.templateSheet saved.name) := by
  have none : saved.cells.entries.mapM (fun e =>
      (e.2.value? read).map fun value => (e.1, value)) = none :=
    mapM_eq_none (by simpa only [Option.isSome_map] using missing)
  rw [load, none]

theorem exists_origin_of_load (loads : saved.load read = .ok sheet) {e : CellAddress × CellValue}
    (member : e ∈ sheet.cells.entries) :
    ∃ cell ∈ saved.cells.entries, cell.2.value? read = some e.2 := by
  obtain ⟨-, -, cells, -⟩ := load_eq_ok_iff.mp loads
  rw [cells] at member
  obtain ⟨cell, among, -, comes⟩ := SortedMap.exists_of_mem_filterMapValues member
  exact ⟨cell, among, comes⟩

theorem load_congr
    (same : ∀ e ∈ saved.cells.entries, e.2.value? read = e.2.value? other) :
    saved.load read = saved.load other := by
  have cells : saved.cells.entries.mapM (fun entry =>
      (entry.2.value? read).map fun value => (entry.1, value)) =
        saved.cells.entries.mapM fun entry =>
          (entry.2.value? other).map fun value => (entry.1, value) :=
    (mapM_eq_map (g := id) _ fun e member => by rw [same e member, Option.map_id_fun, id]).trans
      (by rw [List.map_id_fun, Option.map_id_fun, id])
  rw [load, load, cells]

end SavedSheet

namespace SavedBook

def readPlain (text : String) : String :=
  String.ofList (Xml.readNumbered (Packed.plainText text))

def items? (texts : List String) : Option (List (List Char)) :=
  Template.stringTable
    (Xml.events (byteCharacters (String.ofList (Packed.textTable texts)).toUTF8)).1

/-- The number of each text can be told. -/
def Countable (book : SavedBook) : Prop := book.texts.length ≤ Template.maxIndex + 1

instance (book : SavedBook) : Decidable book.Countable := inferInstanceAs (Decidable (_ ≤ _))

def readBy (texts : List String) (items : List (List Char)) (text : String) : Option String :=
  items[texts.idxOf text]?.map String.ofList

def reading? (texts : List String) : Option (String → Option String) :=
  (items? texts).map (readBy texts)

end SavedBook

end ReportSheets
