import ReportSheets.Template.Cell

namespace ReportSheets.Template

open Xml

structure NameRun where
  chars : List Char := []
  hasDigit : Bool := false

def shifted (index : Nat) (offset : Int) : Nat := ((index + offset) % wordSize).toNat

def movedName? (rows cols : Int) (a : CellAddress) : Option (List Char) :=
  let col := shifted a.col cols
  if col ≤ CellAddress.maxCol then
    some (CellAddress.columnLetters col ++ Text.natural (shifted a.row (rows + 1)))
  else none

def NameRun.moved (run : NameRun) (rows cols : Int) : List Char :=
  ((address? run.chars).bind (movedName? rows cols)).getD run.chars

/-- A formula moved by rows and columns. A name with a dollar sign before its row stays, and so does
a text in double quotes; a name right before such a text comes after it. -/
def moveNames (rows cols : Int) (quoted : Bool) (run : NameRun) : List Char → List Char
  | [] => run.moved rows cols
  | c :: rest =>
    let quoted := if c = '"' then !quoted else quoted
    if quoted then c :: moveNames rows cols true run rest
    else if CellAddress.isLetter c then
      if run.hasDigit then run.chars ++ moveNames rows cols false ⟨[c], false⟩ rest
      else moveNames rows cols false ⟨run.chars ++ [c], false⟩ rest
    else if Text.isDigit c then moveNames rows cols false ⟨run.chars ++ [c], true⟩ rest
    else run.moved rows cols ++ c :: moveNames rows cols false {} rest

structure SharedFormula where
  text : List Char
  place : CellAddress
  range : MergedRange

/-- How far a cell is from the one with the formula, down the first column of the range or, in a
range of one row, along it. -/
def SharedFormula.offset? (shared : SharedFormula) (place : CellAddress) : Option (Int × Int) :=
  let first := shared.range.first
  let last := shared.range.last
  if first.row ≠ last.row then
    if place.col = first.col ∧ first.row ≤ place.row ∧ place.row ≤ last.row then
      some (place.row - shared.place.row, 0)
    else none
  else if first.col ≠ last.col then
    if place.row = first.row ∧ first.col ≤ place.col ∧ place.col ≤ last.col then
      some (0, place.col - shared.place.col)
    else none
  else none

def SharedFormula.at? (shared : SharedFormula) (place : CellAddress) : Option (List Char) :=
  (shared.offset? place).map fun (rows, cols) => moveNames rows cols false {} shared.text

abbrev SharedFormulas := List (Option SharedFormula)

/-- A formula takes the place of its number, or the next one when that is taken. -/
def SharedFormulas.add (known : SharedFormulas) (number : Nat) (shared : SharedFormula) :
    SharedFormulas :=
  known ++ List.replicate (number - known.length) none ++ [some shared]

def sharedNumber? (content : List Char) : Option Nat := do
  let value ← attributeWhere (· == "si".toList) content
  index? (← value)

def isShared (content : List Char) : Bool :=
  attributeWhere (· == ['t']) content == some (some "shared".toList)

def sharedText? (known : SharedFormulas) (place : CellAddress) (content text : List Char) :
    Option (List Char × SharedFormulas) := do
  let number ← sharedNumber? content
  match ← attributeWhere (· == "ref".toList) content with
  | some reference => return (text, known.add number ⟨text, place, ← range? reference⟩)
  | none =>
    let moved := (known[number]?.join).bind fun shared => shared.at? place
    return (moved.getD text, known)

inductive FormulaPart
  | formula (content text : List Char)
  | value

def formulaPart? (content : List Char) (events : List Event) :
    Option (FormulaPart × List Event) :=
  let kind := elementName content
  if kind = "is".toList ∨ kind = "v".toList then
    (pastEnd (tagName content) 0 events).map fun rest => (.value, rest)
  else if kind = "f".toList then
    (textUntil (tagName content) events).map fun (text, rest) => (.formula content text, rest)
  else none

theorem length_of_formulaPart? {content : List Char} {events rest : List Event}
    {part : FormulaPart} (h : formulaPart? content events = some (part, rest)) :
    rest.length < events.length := by
  simp only [formulaPart?] at h
  split at h
  · obtain ⟨_, step, he⟩ := Option.map_eq_some_iff.1 h
    simp only [Prod.mk.injEq] at he
    exact he.2 ▸ length_of_pastEnd step
  · split at h
    · obtain ⟨⟨_, _⟩, step, he⟩ := Option.map_eq_some_iff.1 h
      simp only [Prod.mk.injEq] at he
      exact he.2 ▸ length_of_textUntil step
    · simp at h

def formulaReader : PartReader FormulaPart := ⟨formulaPart?, length_of_formulaPart?⟩

def cellFormula? (known : SharedFormulas) (place : CellAddress) (found : List Char) :
    List FormulaPart → Option (List Char × SharedFormulas)
  | [] => some (found, known)
  | .formula content text :: more => do
    if isShared content then
      let (text, known) ← sharedText? known place content text
      cellFormula? known place text more
    else cellFormula? known place text more
  | .value :: more => cellFormula? known place found more

def cellFormulas? (known : SharedFormulas) :
    List (WrittenCell FormulaPart) → Option (List (CellAddress × List Char))
  | [] => some []
  | cell :: more => do
    let (text, known) ← cellFormula? known cell.place [] cell.parts
    return (cell.place, text) :: (← cellFormulas? known more)

def formulas? (part : List Event × Bool) : Option (List (CellAddress × List Char)) :=
  (writtenCells? formulaReader part).bind (cellFormulas? [])

end ReportSheets.Template
