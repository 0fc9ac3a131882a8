import ReportSheets.Yaml.Cursor

namespace ReportSheets.Yaml

inductive Chomping
  | strip
  | clip
  | keep

structure BlockHeader where
  folded : Bool
  chomping : Chomping := .clip
  indentation : Option Nat := none

def chomping? (c : Char) : Option Chomping :=
  if c = '+' then some .keep else if c = '-' then some .strip else none

def indentation? (c : Char) : Option Nat :=
  if Text.isDigit c ∧ c ≠ '0' then some (Text.digitValue c) else none

def blockHeader? (folded : Bool) (line : List Char) : Option BlockHeader :=
  let word := line.takeWhile fun c => !isBlank c && c != '#'
  let after := (line.drop word.length).dropWhile isBlank
  if !after.isEmpty && after.head? != some '#' then none
  else
    match word with
    | [] => some { folded }
    | [c] =>
      match chomping? c, indentation? c with
      | some chomping, _ => some { folded, chomping }
      | _, some indentation => some { folded, indentation }
      | _, _ => none
    | [a, b] =>
      match chomping? a, indentation? b, chomping? b, indentation? a with
      | some chomping, some indentation, _, _ => some { folded, chomping, indentation }
      | _, _, some chomping, some indentation => some { folded, chomping, indentation }
      | _, _, _, _ => none
    | _ => none

structure Line where
  content : List Char
  ending : Option Char

namespace Line

def ofText : List Char → List Line
  | [] => [⟨[], none⟩]
  | c :: rest =>
    if isBreak c then ⟨[], some c⟩ :: ofText rest
    else
      match ofText rest with
      | first :: more => { first with content := c :: first.content } :: more
      | [] => [⟨[c], none⟩]

def leadingSpaces (line : Line) : Nat := (line.content.takeWhile (· == ' ')).length

def size (line : Line) : Nat := line.content.length + line.ending.toList.length

end Line

/-- The indentation of a block whose header gives none: that of the first line with content or the
last line, and at least that of the blank lines before it. -/
def foundIndentation (least : Nat) : List Line → Nat
  | [] => least
  | line :: more =>
    if line.content.length = line.leadingSpaces ∧ line.ending.isSome then
      max line.leadingSpaces (foundIndentation least more)
    else max line.leadingSpaces least

def tabInIndentation : List Line → Bool
  | [] => false
  | line :: more =>
    match line.content.dropWhile (· == ' ') with
    | [] => tabInIndentation more
    | c :: _ => c == '\t'

structure OpenLines where
  ending : List Char := []
  empties : List Char := []
  indented : Bool := false

namespace OpenLines

def finish (chomping : Chomping) (before : OpenLines) : List Char :=
  match chomping with
  | .strip => []
  | .clip => before.ending
  | .keep => before.ending ++ before.empties

def join (folded indented : Bool) (before : OpenLines) : List Char :=
  if folded && before.ending == ['\n'] && !before.indented && !indented then
    (if before.empties.isEmpty then [' '] else before.empties)
  else before.ending ++ before.empties

end OpenLines

def blockLines (header : BlockHeader) (indentation : Nat) (before : OpenLines) :
    List Line → Option (List Char × Nat)
  | [] => some (before.finish header.chomping, 0)
  | line :: more =>
    let spaces := min indentation line.leadingSpaces
    match line.content.drop spaces, line.ending with
    | [], none => some (before.finish header.chomping, spaces)
    | [], some c =>
      (blockLines header indentation { before with empties := before.empties ++ [c] } more).map
        fun (text, taken) => (text, taken + line.size)
    | first :: content, ending =>
      if spaces = indentation then
        let indented := isBlank first
        (blockLines header indentation { ending := ending.toList, indented } more).map
          fun (text, taken) =>
            (before.join header.folded indented ++ first :: content ++ text, taken + line.size)
      else if first = '\t' then none
      else some (before.finish header.chomping, 0)

/-- The text of a block whose mark stands here, and the place after it; what is around it leaves it
`least` columns of indentation. -/
def block? (least : Nat) (c : Cursor) : Option (List Char × Cursor) :=
  match c.rest with
  | [] => none
  | mark :: rest =>
    match Line.ofText rest with
    | [] => none
    | head :: lines => do
      let header ← blockHeader? (mark == '>') head.content
      let indentation ← match header.indentation with
        | some count => some (least - 1 + count)
        | none =>
          if tabInIndentation lines then none else some (foundIndentation (max least 1) lines)
      let (text, taken) ← blockLines header indentation {} lines
      return (text, c.skip (1 + head.size + taken))

end ReportSheets.Yaml
