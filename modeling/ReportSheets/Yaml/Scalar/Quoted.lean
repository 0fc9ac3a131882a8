import ReportSheets.Yaml.Scalar.Gap

namespace ReportSheets.Yaml

abbrev QuotedText := Option (List Char × List Char)

def QuotedText.after (more : QuotedText) (gap : Gap) (c : Char) : QuotedText :=
  more.map fun (text, rest) => (gap.text ++ c :: text, rest)

def singleQuoted (gap : Gap) : List Char → QuotedText
  | [] => none
  | '\'' :: '\'' :: rest => (singleQuoted .none rest).after gap '\''
  | '\'' :: rest => some (gap.text, rest)
  | c :: rest =>
    if endsWord [c] then
      if isBreak c && startsMarker rest then none else singleQuoted (gap.add c) rest
    else (singleQuoted .none rest).after gap c

def escaped? (c : Char) : Option Char :=
  (([('0', '\x00'), ('a', '\x07'), ('b', '\x08'), ('t', '\t'), ('\t', '\t'), ('n', '\n'),
    ('v', '\x0b'), ('f', '\x0c'), ('r', '\r'), ('e', '\x1b'), (' ', ' '), ('"', '"'), ('/', '/'),
    ('\\', '\\'), ('N', '\u0085'), ('_', '\u00a0'), ('L', '\u2028'), ('P', '\u2029')] :
      List (Char × Char)).find? fun entry => entry.1 == c).map (·.2)

def character? (digits : List Char) : Option Char :=
  (Text.readHex? digits).bind fun code =>
    if h : code.isValidChar then some (Char.ofNatAux code h) else none

def doubleQuoted (gap : Gap) : List Char → QuotedText
  | [] => none
  | '"' :: rest => some (gap.text, rest)
  | '\\' :: 'x' :: a :: b :: rest =>
    (character? [a, b]).bind ((doubleQuoted .none rest).after gap)
  | '\\' :: 'u' :: a :: b :: c :: d :: rest =>
    (character? [a, b, c, d]).bind ((doubleQuoted .none rest).after gap)
  | '\\' :: 'U' :: a :: b :: c :: d :: e :: f :: g :: h :: rest =>
    (character? [a, b, c, d, e, f, g, h]).bind ((doubleQuoted .none rest).after gap)
  | '\\' :: c :: rest =>
    if isBreak c then
      if startsMarker rest then none
      else (doubleQuoted (.escaped []) rest).map fun (text, rest) => (gap.text ++ text, rest)
    else (escaped? c).bind ((doubleQuoted .none rest).after gap)
  | c :: rest =>
    if endsWord [c] then
      if isBreak c && startsMarker rest then none else doubleQuoted (gap.add c) rest
    else (doubleQuoted .none rest).after gap c

def quoted? (c : Cursor) : Option (List Char × Cursor) :=
  let found := match c.rest with
    | '\'' :: rest => singleQuoted .none rest
    | '"' :: rest => doubleQuoted .none rest
    | _ => none
  found.map fun (text, rest) => (text, c.skipTo rest)

end ReportSheets.Yaml
