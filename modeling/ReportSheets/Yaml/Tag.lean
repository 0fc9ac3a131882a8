import ReportSheets.Yaml.Cursor

namespace ReportSheets.Yaml

def uriMarks : List Char := ";/?:@&=+$.%!~*'()".toList

def isUriCharacter (full : Bool) (c : Char) : Bool :=
  isNameCharacter c || uriMarks.contains c || (full && (c == ',' || c == '[' || c == ']'))

/-- The number of bytes that follow a byte of a character, of which `awaited` were still to come. -/
def bytesAfter? (awaited byte : Nat) : Option Nat :=
  match awaited with
  | count + 1 => if byte / 64 = 2 then some count else none
  | 0 =>
    if byte < 128 then some 0
    else if byte / 32 = 6 then some 1
    else if byte / 16 = 14 then some 2
    else if byte / 8 = 30 then some 3
    else none

def escapesFit (awaited : Nat) : List Char → Bool
  | '%' :: a :: b :: rest =>
    match Text.hexDigit? a, Text.hexDigit? b with
    | some high, some low =>
      match bytesAfter? awaited (16 * high + low) with
      | some awaited => escapesFit awaited rest
      | none => false
    | _, _ => false
  | c :: rest => awaited == 0 && c != '%' && escapesFit 0 rest
  | [] => awaited == 0

def uri? (full : Bool) (text : List Char) : Option (List Char × List Char) :=
  let characters := text.takeWhile (isUriCharacter full)
  if escapesFit 0 characters then some (characters, text.drop characters.length) else none

def someUri? (full : Bool) (text : List Char) : Option (List Char) :=
  (uri? full text).bind fun (characters, rest) => if characters.isEmpty then none else some rest

/-- A word between exclamation marks, of which the second may lack, and what follows. -/
def handle? : List Char → Option (List Char × List Char)
  | '!' :: rest =>
    let word := rest.takeWhile isNameCharacter
    match rest.drop word.length with
    | '!' :: rest => some ('!' :: word ++ ['!'], rest)
    | rest => some ('!' :: word, rest)
  | _ => none

def knownHandles : List (List Char) := ["!".toList, "!!".toList]

def isHandle (word : List Char) : Bool := word.length != 1 && word.getLast? == some '!'

def tagStart? : List Char → Option (List Char × List Char)
  | '!' :: '<' :: text =>
    (someUri? true text).bind fun
      | '>' :: rest => some (['!'], rest)
      | _ => none
  | text =>
    (handle? text).bind fun (word, rest) =>
      if isHandle word then (someUri? false rest).map fun rest => (word, rest)
      else (uri? false rest).map fun (_, rest) => (['!'], rest)

/-- The handle of the tag at the start of a text, and what follows the tag: a blank, or in brackets
a comma. -/
def tag? (flow : Bool) (text : List Char) : Option (List Char × List Char) :=
  (tagStart? text).filter fun (_, rest) => endsWord rest || (flow && rest.head? == some ',')

inductive Directive
  | version (major minor : Nat)
  | handle (handle : List Char)

def shortNumber? (text : List Char) : Option (Nat × List Char) :=
  let digits := text.takeWhile Text.isDigit
  if digits.isEmpty || 9 < digits.length then none
  else some (Text.naturalOf digits, text.drop digits.length)

def version? (text : List Char) : Option (Directive × List Char) := do
  let (major, rest) ← shortNumber? text
  match rest with
  | '.' :: rest =>
    let (minor, rest) ← shortNumber? rest
    return (.version major minor, rest)
  | _ => none

def declaration? (text : List Char) : Option (Directive × List Char) := do
  let (word, rest) ← handle? text
  let after ← someUri? true (rest.dropWhile isBlank)
  if (isHandle word || word.length = 1) && rest.head?.any isBlank && endsWord after then
    some (.handle word, after)
  else none

def pastLine? (text : List Char) : Option (List Char) :=
  let text := text.dropWhile isBlank
  let rest := if text.head? = some '#' then text.dropWhile (!isBreak ·) else text
  match rest with
  | [] => some []
  | c :: rest => if isBreak c then some rest else none

def directive? (text : List Char) : Option (Directive × List Char) := do
  let text := text.tail
  let name := text.takeWhile isNameCharacter
  let rest := text.drop name.length
  let value := rest.dropWhile isBlank
  let (directive, rest) ←
    if !endsWord rest then none
    else if name = "YAML".toList then version? value
    else if name = "TAG".toList then declaration? value
    else none
  return (directive, ← pastLine? rest)

end ReportSheets.Yaml
