import ReportSheets.Template.Package
import ReportSheets.Template.StringItem

namespace ReportSheets.Template

open Text (Encoding)
open Xml

def attributes? (content : List Char) : Option (List Attribute) :=
  let (attributes, broken) := tagAttributes content
  if broken then none else some attributes

def valueText? (encoding : Encoding) (value : List Char) : Option (List Char) :=
  (encoding.decode? value).bind unescape?

inductive StylePlace
  | outside
  | formats
  | cellFormats

def numberFormatFits (content : List Char) (encoding : Encoding) : Bool :=
  match attributes? content with
  | none => false
  | some attributes =>
    attributes.all fun a => a.name != "formatCode".toList || (encoding.decode? a.value).isSome

/-- The styles have to end, and their number formats to be well formed; nothing else in them
counts. -/
def stylesComplete (place : StylePlace) : List Event → Bool
  | [] => false
  | .text _ :: rest => stylesComplete place rest
  | .start content encoding :: rest =>
    match place with
    | .outside =>
      if elementName content = "numFmts".toList then stylesComplete .formats rest
      else if elementName content = "cellXfs".toList then stylesComplete .cellFormats rest
      else stylesComplete .outside rest
    | .formats =>
      (elementName content != "numFmt".toList || numberFormatFits content encoding) &&
        stylesComplete .formats rest
    | .cellFormats => stylesComplete .cellFormats rest
  | .finish name :: rest =>
    match place with
    | .outside => localName name == "styleSheet".toList || stylesComplete .outside rest
    | .formats =>
      stylesComplete (if localName name = "numFmts".toList then .outside else .formats) rest
    | .cellFormats =>
      stylesComplete (if localName name = "cellXfs".toList then .outside else .cellFormats) rest

/-- A relationship: its identifier as it is written, and its target. -/
abbrev Relation := List Char × List Char

def withRelationAttribute (encoding : Encoding) (relation : Relation) (a : Attribute) :
    Option Relation :=
  if a.name = "Id".toList then some (relation.1 ++ a.value, relation.2)
  else if a.name = "Target".toList then
    (encoding.decode? a.value).map fun target => (relation.1, target)
  else some relation

def relation? (content : List Char) (encoding : Encoding) : Option Relation :=
  (attributes? content).bind fun attributes =>
    attributes.foldlM (withRelationAttribute encoding) ([], [])

def relationships? (found : List Relation) : List Event → Option (List Relation)
  | [] => none
  | .text _ :: rest => relationships? found rest
  | .finish name :: rest =>
    if localName name = "Relationships".toList then some found else relationships? found rest
  | .start content encoding :: rest =>
    if elementName content = "Relationship".toList then
      (relation? content encoding).bind fun relation => relationships? (relation :: found) rest
    else relationships? found rest

structure SheetEntry where
  name : String
  part : String
deriving DecidableEq

def knownFolders : List String := ["worksheets", "chartsheets", "dialogsheets"]

def knownStates : List String := ["visible", "hidden", "veryHidden"]

def sheetPart (target : List Char) : List Char :=
  match Text.after? "/xl/".toList target with
  | some rest => "xl/".toList ++ rest
  | none => if (Text.after? "xl/".toList target).isSome then target else "xl/".toList ++ target

def isSheetPart (part : String) : Bool :=
  match Text.pieces (· == '/') part.toList with
  | _ :: folder :: _ => String.ofList folder ∈ knownFolders
  | _ => false

def isRelationName (name : List Char) : Bool :=
  name == "r:id".toList || name == "relationships:id".toList

def SheetEntry.withAttribute (relationships : List Relation) (encoding : Encoding)
    (entry : SheetEntry) (a : Attribute) : Option SheetEntry :=
  if a.name = "name".toList then
    (valueText? encoding a.value).map fun name => { entry with name := String.ofList name }
  else if a.name = "state".toList then
    (valueText? encoding a.value).bind fun state =>
      if String.ofList state ∈ knownStates then some entry else none
  else if isRelationName a.name then do
    let (_, target) ← relationships.find? fun relation => relation.1 == a.value
    return { entry with part := String.ofList (sheetPart target) }
  else some entry

def SheetEntry.ofTag? (relationships : List Relation) (content : List Char)
    (encoding : Encoding) : Option SheetEntry := do
  let attributes ← attributes? content
  let entry ← attributes.foldlM (SheetEntry.withAttribute relationships encoding) ⟨"", ""⟩
  if isSheetPart entry.part then return entry else none

def calendarFits (content : List Char) (encoding : Encoding) : Bool :=
  match attributeWhere (· == "date1904".toList) content with
  | none => false
  | some none => true
  | some (some value) => (valueText? encoding value).isSome

/-- What follows a defined name, whose text has to be well formed when it has a name. -/
def pastDefinedName? (content : List Char) (encoding : Encoding) (rest : List Event) :
    Option (List Event) :=
  match (soundAttributes content).find? fun a => a.name == "name".toList with
  | none => some rest
  | some a => do
    let _ ← valueText? encoding a.value
    let (_, rest) ← textUntil (tagName content) rest
    return rest

theorem length_of_pastDefinedName? {content : List Char} {encoding : Encoding}
    {events rest : List Event} (h : pastDefinedName? content encoding events = some rest) :
    rest.length ≤ events.length := by
  unfold pastDefinedName? at h
  split at h
  · simp only [Option.some.injEq] at h
    simp [h]
  · obtain ⟨_, _, h⟩ := Option.bind_eq_some_iff.1 h
    obtain ⟨⟨_, _⟩, step, h⟩ := Option.bind_eq_some_iff.1 h
    simp only [Option.pure_def, Option.some.injEq] at h
    rw [← h]
    exact Nat.le_of_lt (length_of_textUntil step)

def sheetEntries? (relationships : List Relation) (events : List Event) :
    Option (List SheetEntry) :=
  match events with
  | [] => none
  | .text _ :: rest => sheetEntries? relationships rest
  | .finish name :: rest =>
    if localName name = "workbook".toList then some [] else sheetEntries? relationships rest
  | .start content encoding :: rest =>
    if elementName content = "sheet".toList then do
      let entry ← SheetEntry.ofTag? relationships content encoding
      return entry :: (← sheetEntries? relationships rest)
    else if tagName content = "workbookPr".toList then
      if calendarFits content encoding then sheetEntries? relationships rest else none
    else if elementName content = "definedName".toList then
      match _next : pastDefinedName? content encoding rest with
      | none => none
      | some rest => sheetEntries? relationships rest
    else sheetEntries? relationships rest
termination_by events.length
decreasing_by
  · exact Nat.lt_succ_self _
  · exact Nat.lt_succ_self _
  · exact Nat.lt_succ_self _
  · exact Nat.lt_succ_self _
  · exact Nat.lt_succ_of_le (length_of_pastDefinedName? _next)
  · exact Nat.lt_succ_self _

structure Outline where
  texts : List (List Char)
  sheets : List SheetEntry

def ofPart? {α : Type} (package : Package) (name : String) (missing : Option α)
    (read : List Event → Option α) : Option α :=
  match package.partFolded? name with
  | none => missing
  | some part => part.events?.bind fun events => read events.1

/-- The relationship part must not be missing. -/
def outline? (package : Package) : Option Outline := do
  let texts ← ofPart? package Package.stringsPart (some []) stringTable
  ofPart? package Package.stylesPart (some ()) fun events =>
    if stylesComplete .outside events then some () else none
  let relationships ← ofPart? package Package.relationshipsPart none (relationships? [])
  let sheets ← ofPart? package Package.workbookPart (some []) (sheetEntries? relationships)
  return { texts, sheets }

end ReportSheets.Template
