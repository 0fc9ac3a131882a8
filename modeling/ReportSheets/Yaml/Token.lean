namespace ReportSheets.Yaml

inductive Token
  | version (major minor : Nat)
  | handle (handle : List Char)
  | documentStart
  | documentEnd
  | sequenceStart
  | mappingStart
  | blockEnd
  | openBracket
  | closeBracket
  | openBrace
  | closeBrace
  | comma
  | item
  | key
  | value
  | alias (name : List Char)
  | anchor (name : List Char)
  | tag (handle : List Char)
  | scalar (text : List Char)
deriving DecidableEq

end ReportSheets.Yaml
