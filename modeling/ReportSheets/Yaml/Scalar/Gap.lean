import ReportSheets.Yaml.Cursor

namespace ReportSheets.Yaml

/-- Blanks or line ends since the last character of a word, the last one first. Blanks around line
ends do not count. -/
inductive Gap
  | blanks (chars : List Char)
  | breaks (first : Char) (more : List Char)
  | escaped (more : List Char)

namespace Gap

def none : Gap := blanks []

def isNone : Gap → Bool
  | blanks [] => true
  | _ => false

def hasBreak : Gap → Bool
  | blanks _ => false
  | _ => true

def add (c : Char) : Gap → Gap
  | blanks chars => if isBreak c then breaks c [] else blanks (c :: chars)
  | breaks first more => breaks first (if isBreak c then c :: more else more)
  | escaped more => escaped (if isBreak c then c :: more else more)

/-- A first line feed joins two lines, and other line ends are text. -/
def text : Gap → List Char
  | blanks chars => chars.reverse
  | breaks first more =>
    if first = '\n' then (if more = [] then [' '] else more.reverse) else first :: more.reverse
  | escaped more => more.reverse

end Gap

end ReportSheets.Yaml
