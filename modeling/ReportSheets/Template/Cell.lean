import ReportSheets.Template.Reference
import ReportSheets.Template.Package

namespace ReportSheets.Template

open Xml

structure PartReader (α : Type) where
  read? : List Char → List Event → Option (α × List Event)
  shorter : ∀ {content events found rest}, read? content events = some (found, rest) →
    rest.length < events.length

structure WrittenCell (α : Type) where
  place : CellAddress
  content : List Char
  parts : List α

variable {α : Type}

def cellParts (reader : PartReader α) (events : List Event) : Option (List α × List Event) :=
  match events with
  | [] => none
  | .text _ :: rest => cellParts reader rest
  | .finish name :: rest =>
    if localName name = ['c'] then some ([], rest) else cellParts reader rest
  | .start content _ :: rest =>
    match _part : reader.read? content rest with
    | none => none
    | some (part, rest) => (cellParts reader rest).map fun (parts, rest) => (part :: parts, rest)
termination_by events.length
decreasing_by
  · exact Nat.lt_succ_self _
  · exact Nat.lt_succ_self _
  · exact Nat.lt_succ_of_lt (reader.shorter _part)

theorem length_of_cellParts {reader : PartReader α} {events rest : List Event} {parts : List α}
    (h : cellParts reader events = some (parts, rest)) : rest.length < events.length := by
  fun_induction cellParts reader events generalizing parts with
  | case1 => simp at h
  | case2 content more ih => exact Nat.lt_succ_of_lt (ih h)
  | case3 name more ends =>
    simp only [Option.some.injEq, Prod.mk.injEq] at h
    simp [← h.2]
  | case4 name more goes ih => exact Nat.lt_succ_of_lt (ih h)
  | case5 => simp at h
  | case6 content _ more part after step ih =>
    obtain ⟨⟨_, _⟩, inner, he⟩ := Option.map_eq_some_iff.1 h
    simp only [Prod.mk.injEq] at he
    obtain ⟨-, rfl⟩ := he
    exact Nat.lt_succ_of_lt (Nat.lt_trans (ih inner) (reader.shorter step))

def rowOf? (content : List Char) (expected : Nat) : Option Nat :=
  match attributeWhere (· == ['r']) content with
  | none => none
  | some none => some expected
  | some (some reference) => row? reference

def placeOf? (content : List Char) (expected : CellAddress) : Option CellAddress :=
  match attributeWhere (· == ['r']) content with
  | none => none
  | some none => some expected
  | some (some reference) => address? reference

def nextIndex (index : Nat) : Nat := (index + 1) % wordSize

def cellsFrom (reader : PartReader α) (next : CellAddress) (events : List Event) :
    Option (List (WrittenCell α)) :=
  match events with
  | [] => none
  | .text _ :: rest => cellsFrom reader next rest
  | .finish name :: rest =>
    if localName name = "row".toList then cellsFrom reader ⟨nextIndex next.row, 0⟩ rest
    else if localName name = "sheetData".toList then some []
    else cellsFrom reader next rest
  | .start content _ :: rest =>
    if elementName content = "row".toList then
      match rowOf? content next.row with
      | none => none
      | some row => cellsFrom reader { next with row } rest
    else if elementName content = ['c'] then
      match placeOf? content next, _parts : cellParts reader rest with
      | some place, some (parts, rest) =>
        (cellsFrom reader ⟨next.row, nextIndex place.col⟩ rest).map (⟨place, content, parts⟩ :: ·)
      | _, _ => none
    else cellsFrom reader next rest
termination_by events.length
decreasing_by
  · exact Nat.lt_succ_self _
  · exact Nat.lt_succ_self _
  · exact Nat.lt_succ_self _
  · exact Nat.lt_succ_self _
  · exact Nat.lt_succ_of_lt (length_of_cellParts _parts)
  · exact Nat.lt_succ_self _

/-- What follows the beginning of the sheet data, none when there is none. A dimension that comes
before it has to give a range. `started` tells whether another element has come before. -/
def sheetData? (broken started : Bool) : List Event → Option (Option (List Event))
  | [] => if started && !broken then some none else none
  | .text _ :: rest => sheetData? broken started rest
  | .finish _ :: rest => sheetData? broken started rest
  | .start content _ :: rest =>
    if elementName content = "sheetData".toList then some (some rest)
    else if elementName content = "dimension".toList then
      match attributeWhere (· == "ref".toList) content with
      | some (some reference) =>
        if (range? reference).isSome then sheetData? broken started rest else none
      | _ => none
    else sheetData? broken true rest

def writtenCells? (reader : PartReader α) (part : List Event × Bool) :
    Option (List (WrittenCell α)) :=
  match sheetData? part.2 false part.1 with
  | none => none
  | some none => some []
  | some (some rest) => cellsFrom reader ⟨0, 0⟩ rest

end ReportSheets.Template
