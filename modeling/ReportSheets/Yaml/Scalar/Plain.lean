import ReportSheets.Yaml.Scalar.Gap

namespace ReportSheets.Yaml

structure PlainText where
  text : List Char := []
  taken : Nat := 0
  broken : Bool

def indicators : List Char := "-?:,[]\x7b\x7d#&*!|>'\"%@`".toList

def startsPlain (flow : Bool) : List Char → Bool
  | [] => false
  | c :: rest =>
    !endsWord [c] && (!indicators.contains c || (c == '-' && !endsWord rest) ||
      (!flow && (c == '?' || c == ':') && !endsWord rest))

/-- Whether a plain scalar ends with the gap before this place: at a mark between documents, at a
comment, or in a block where the line is indented less than `least`. -/
def endsAfterGap (flow : Bool) (least column : Nat) (rest : List Char) : Bool :=
  (!flow && decide (column < least)) || (column == 0 && startsMarker rest) ||
    rest.head? == some '#'

def endsPlain (flow : Bool) (c : Char) (rest : List Char) : Bool :=
  (c == ':' && endsWord rest) || (flow && flowMarks.contains c)

def strayColon (flow : Bool) (c : Char) (rest : List Char) : Bool :=
  flow && c == ':' && rest.head?.any ('?' :: flowMarks).contains

/-- The rest of a plain scalar after a gap; no tab may indent a line by less than `least`. -/
def plainFrom (flow : Bool) (least column : Nat) (gap : Gap) : List Char → Option PlainText
  | [] => some { broken := gap.hasBreak }
  | c :: rest =>
    if endsWord [c] then
      if c = '\t' ∧ gap.hasBreak ∧ column < least then none
      else
        (plainFrom flow least (if isBreak c then 0 else column + 1) (gap.add c) rest).map
          fun more => { more with taken := more.taken + 1 }
    else if !gap.isNone && endsAfterGap flow least column (c :: rest) then
      some { broken := gap.hasBreak }
    else if strayColon flow c rest then none
    else if endsPlain flow c rest then some { broken := gap.hasBreak }
    else
      (plainFrom flow least (column + 1) .none rest).map fun more =>
        { more with text := gap.text ++ c :: more.text, taken := more.taken + 1 }

def plain? (flow : Bool) (least : Nat) (c : Cursor) : Option PlainText :=
  if startsPlain flow c.rest then plainFrom flow least c.column .none c.rest else none

end ReportSheets.Yaml
