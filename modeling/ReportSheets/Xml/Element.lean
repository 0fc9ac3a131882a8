import ReportSheets.Xml.Entity

namespace ReportSheets.Xml

def nameEnds : List Char := " \t\r\n<>/=\"'!?&".toList

structure Name where
  text : List Char
  visible : text ≠ []
  plain : ∀ c ∈ text, c ∉ nameEnds

def isName (text : List Char) : Bool := !text.isEmpty && text.all fun c => !nameEnds.contains c

def Name.ofText (text : String) (fits : isName text.toList = true) : Name where
  text := text.toList
  visible := by
    rw [isName, Bool.and_eq_true] at fits
    simpa using fits.1
  plain := by
    rw [isName, Bool.and_eq_true, List.all_eq_true] at fits
    intro c member
    simpa using fits.2 c member

def titleName : Name := .ofText "name" rfl

def writtenAttributes (attributes : List (Name × List Char)) : List Char :=
  attributes.flatMap fun given =>
    ' ' :: (given.1.text ++ '=' :: '"' :: (escape given.2 ++ ['"']))

def Name.tag (name : Name) (attributes : List (Name × List Char)) : List Char :=
  name.text ++ writtenAttributes attributes

def Name.opening (name : Name) (attributes : List (Name × List Char)) : List Char :=
  '<' :: (name.tag attributes ++ ['>'])

def Name.closing (name : Name) : List Char := '<' :: '/' :: (name.text ++ ['>'])

inductive Element
  | closed (name : Name) (attributes : List (Name × List Char))
  | holding (name : Name) (attributes : List (Name × List Char)) (text : List Char)
  | around (name : Name) (attributes : List (Name × List Char)) (children : List Element)

namespace Element

mutual

def written : Element → List Char
  | closed name attributes => '<' :: (name.tag attributes ++ ['/', '>'])
  | holding name attributes text => name.opening attributes ++ (escape text ++ name.closing)
  | around name attributes children =>
    name.opening attributes ++ (writtenAll children ++ name.closing)

def writtenAll : List Element → List Char
  | [] => []
  | element :: more => element.written ++ writtenAll more

end

end Element

def declaration : List Char :=
  "<?xml version=\"1.0\" encoding=\"UTF-8\" standalone=\"yes\"?>\n".toList

def document (root : Element) : List Char := declaration ++ root.written

end ReportSheets.Xml
