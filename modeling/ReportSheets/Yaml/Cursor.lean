import ReportSheets.Text.Integer

namespace ReportSheets.Yaml

def isBlank (c : Char) : Bool := c == ' ' || c == '\t'

/-- Line ends, where the common ones are written as line feeds. -/
def isBreak (c : Char) : Bool := c == '\n' || c == '\u2028' || c == '\u2029'

def endsWord : List Char → Bool
  | [] => true
  | c :: _ => isBlank c || isBreak c

def startsMarker (line : List Char) : Bool :=
  (line.take 3 == "---".toList || line.take 3 == "...".toList) && endsWord (line.drop 3)

def flowMarks : List Char := ",[]\x7b\x7d".toList

def isNameCharacter (c : Char) : Bool :=
  Text.isDigit c || ('a' ≤ c && c ≤ 'z') || ('A' ≤ c && c ≤ 'Z') || c == '-' || c == '_'

structure Cursor where
  rest : List Char
  index : Nat := 0
  line : Nat := 0
  column : Nat := 0

namespace Cursor

def step (c : Cursor) : Cursor :=
  match c.rest with
  | [] => c
  | first :: rest =>
    if isBreak first then { rest, index := c.index + 1, line := c.line + 1, column := 0 }
    else { c with rest, index := c.index + 1, column := c.column + 1 }

def skip : Nat → Cursor → Cursor
  | 0, c => c
  | count + 1, c => skip count c.step

def skipTo (c : Cursor) (rest : List Char) : Cursor := c.skip (c.rest.length - rest.length)

end Cursor

end ReportSheets.Yaml
