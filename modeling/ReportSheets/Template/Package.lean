import ReportSheets.Archive.Content
import ReportSheets.Xml.Event

namespace ReportSheets

structure Package where
  parts : List (String × Archive.Content)

namespace Package

def ofParts (parts : List (String × ByteArray)) : Package where
  parts := parts.map fun (name, content) => (name, .bytes content none)

def workbookPart : String := "xl/workbook.xml"

def relationshipsPart : String := "xl/_rels/workbook.xml.rels"

def stringsPart : String := "xl/sharedStrings.xml"

def stylesPart : String := "xl/styles.xml"

def part? (package : Package) (name : String) : Option Archive.Content :=
  (package.parts.find? fun entry => entry.1 == name).map (·.2)

def partFolded? (package : Package) (name : String) : Option Archive.Content :=
  (package.parts.find? fun entry =>
    entry.1.toList.map Char.toLower == name.toList.map Char.toLower).map (·.2)

end Package

def byteCharacters (bytes : ByteArray) : List Char :=
  bytes.toList.map fun byte => Char.ofNat byte.toNat

/-- The events of a part, and whether something broken follows them; none when it is locked. -/
def Archive.Content.events? : Archive.Content → Option (List Xml.Event × Bool)
  | .locked => none
  | .bytes content fault =>
    let (events, broken) := Xml.events (byteCharacters content)
    some (events, broken || fault.isSome)

end ReportSheets
