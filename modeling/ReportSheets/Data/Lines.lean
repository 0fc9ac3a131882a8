import ReportSheets.Text.Blank

namespace ReportSheets

inductive RawLine
  | utf8 (line : String)
  | notUtf8
deriving DecidableEq

namespace RawLine

def withoutReturn (line : List Char) : List Char :=
  if line.getLast? = some '\r' then line.dropLast else line

/-- The pieces between line feeds, each with whether a line feed ends it. -/
def endedPieces {α : Type} : List (List α) → List (List α × Bool)
  | [] => []
  | [last] => if last.isEmpty then [] else [(last, false)]
  | piece :: more => (piece, true) :: endedPieces more

def ofPiece (line : List Char) (ended : Bool) : RawLine :=
  .utf8 (String.ofList (if ended then withoutReturn line else line))

def ofText (text : List Char) : List RawLine :=
  (endedPieces (Text.pieces (· == '\n') text)).map fun (line, ended) => ofPiece line ended

def ofBytes (bytes : ByteArray) : List RawLine :=
  (endedPieces (Text.pieces (· == 10) bytes.toList)).map fun (line, ended) =>
    match String.fromUTF8? ⟨line.toArray⟩ with
    | some text => ofPiece text.toList ended
    | none => .notUtf8

end RawLine

end ReportSheets
