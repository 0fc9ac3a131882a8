namespace ReportSheets

namespace Csv

inductive FieldState
  | start
  | bare
  | quoted
  /-- Just after a quote inside a quoted field. -/
  | closing
deriving DecidableEq

def isTerminator (c : Char) : Bool := c == '\r' || c == '\n'

def extendFirst (c : Char) : List (List Char) → List (List Char)
  | [] => [[c]]
  | field :: fields => (c :: field) :: fields

def fields : FieldState → List Char → List (List Char)
  | _, [] => [[]]
  | .quoted, c :: rest =>
    if c = '"' then fields .closing rest else extendFirst c (fields .quoted rest)
  | state, c :: rest =>
    if c = '"' ∧ state = .start then fields .quoted rest
    else if c = '"' ∧ state = .closing then extendFirst c (fields .quoted rest)
    else if c = ',' then [] :: fields .start rest
    else if isTerminator c then [[]]
    else extendFirst c (fields .bare rest)

def byteOrderMark : Char := '\ufeff'

def dropMark : List Char → List Char
  | c :: rest => if c = byteOrderMark then rest else c :: rest
  | [] => []

/-- The record of a line; a line of terminators alone holds none. -/
def record? (line : List Char) : Option (List (List Char)) :=
  match (dropMark line).dropWhile isTerminator with
  | [] => none
  | c :: rest => some (fields .start (c :: rest))

/-- A reading of single lines: the values of the line's record, none for a line without a record, or
the reason why the line is refused. -/
abbrev Tokenizer := String → Except String (Option (List String))

def tokenize : Tokenizer := fun line =>
  .ok ((record? line.toList).map (·.map String.ofList))

end Csv

end ReportSheets
