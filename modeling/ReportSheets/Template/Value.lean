import ReportSheets.Number.Reading
import ReportSheets.Sheet.Basic
import ReportSheets.Template.Cell
import ReportSheets.Template.StringItem

namespace ReportSheets.Template

open Xml

def errorTexts : List String :=
  ["#DIV/0!", "#N/A", "#NAME?", "#NULL!", "#NUM!", "#REF!", "#VALUE!"]

inductive FoundValue
  | none
  /-- The cell counts as filled but carries nothing over. -/
  | lost
  | found (value : CellValue)

def typedValue? (texts : List (List Char)) (type : Option (List Char)) (text : List Char) :
    Option FoundValue :=
  let asText := FoundValue.found (.text (String.ofList text))
  match type.map String.ofList with
  | none => some ((Binary64.read? text).elim asText fun n => .found (.number n))
  | some "s" =>
    texts[(index? text).getD 0]?.map fun t => .found (.text (String.ofList t))
  | some "b" => some (.found (.bool (text != ['0'])))
  | some "e" => if String.ofList text ∈ errorTexts then some .lost else none
  | some "d" => some asText
  | some "str" => some asText
  | some "n" =>
    if text = [] then some .none
    else (Binary64.read? text).map fun n => .found (.number n)
  | some _ => none

inductive ValuePart
  | inline (text : Option (List Char))
  | value (text : List Char)
  | formula

def valuePart? (content : List Char) (events : List Event) : Option (ValuePart × List Event) :=
  let kind := elementName content
  if kind = "is".toList then
    (stringItem (tagName content) false events).map fun (text, rest) => (.inline text, rest)
  else if kind = "v".toList then
    (textUntil (tagName content) events).map fun (text, rest) => (.value text, rest)
  else if kind = "f".toList then
    (pastEnd (tagName content) 0 events).map fun rest => (.formula, rest)
  else none

theorem length_of_valuePart? {content : List Char} {events rest : List Event} {part : ValuePart}
    (h : valuePart? content events = some (part, rest)) : rest.length < events.length := by
  simp only [valuePart?] at h
  split at h
  · obtain ⟨⟨_, _⟩, step, he⟩ := Option.map_eq_some_iff.1 h
    simp only [Prod.mk.injEq] at he
    exact he.2 ▸ length_of_stringItem step
  · split at h
    · obtain ⟨⟨_, _⟩, step, he⟩ := Option.map_eq_some_iff.1 h
      simp only [Prod.mk.injEq] at he
      exact he.2 ▸ length_of_textUntil step
    · split at h
      · obtain ⟨_, step, he⟩ := Option.map_eq_some_iff.1 h
        simp only [Prod.mk.injEq] at he
        exact he.2 ▸ length_of_pastEnd step
      · simp at h

def valueReader : PartReader ValuePart := ⟨valuePart?, length_of_valuePart?⟩

def partValue? (texts : List (List Char)) (content : List Char) : ValuePart → Option FoundValue
  | .inline text => some (text.elim .none fun t => .found (.text (String.ofList t)))
  | .value text => do
    let type ← attributeWhere (· == ['t']) content
    typedValue? texts type text
  | .formula => some .none

def cellValue? (texts : List (List Char)) (content : List Char) (value : FoundValue) :
    List ValuePart → Option FoundValue
  | [] => some value
  | part :: more => do cellValue? texts content (← partValue? texts content part) more

/-- The cells in the rows from the first cell's to the last one's, and in columns that can be
carried over. -/
def withinRows {α : Type} (cells : List (CellAddress × α)) : List (CellAddress × α) :=
  match cells.head?, cells.getLast? with
  | some first, some last =>
    cells.filter fun cell =>
      first.1.row ≤ cell.1.row && cell.1.row ≤ last.1.row && cell.1.col ≤ maxColumn
  | _, _ => []

def values? (texts : List (List Char)) (part : List Event × Bool) :
    Option (List (CellAddress × CellValue)) := do
  let cells ← writtenCells? valueReader part
  let found ← cells.mapM fun cell =>
    (cellValue? texts cell.content .none cell.parts).map fun value => (cell.place, value)
  let filled := found.filter fun
    | (_, .none) => false
    | _ => true
  return (withinRows filled).filterMap fun
    | (place, .found value) => some (place, value)
    | _ => none

end ReportSheets.Template
