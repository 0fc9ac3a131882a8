import ReportSheets.Xml.Tag

namespace ReportSheets.Xml

/-- The contents of the opening tags up to the first closing tag that closes nothing, and whether
broken markup ends the document. `names` are the open elements, innermost first. -/
def openingsOf (broken : Bool) (names : List (List Char)) : List Token → List (List Char) × Bool
  | [] => ([], broken)
  | .opening content closed :: rest =>
    let names := if closed then names else tagName content :: names
    let (more, broken) := openingsOf broken names rest
    (content :: more, broken)
  | .closing content :: rest =>
    match names with
    | [] => ([], true)
    | name :: outer =>
      if closingName content = name then openingsOf broken outer rest else ([], true)
  | _ :: rest => openingsOf broken names rest

def openings (document : List Char) : List (List Char) × Bool :=
  let (tokens, broken) := tokens document
  openingsOf broken [] tokens

def elementName (content : List Char) : List Char := localName (tagName content)

/-- The value of the first attribute that satisfies `p`; none when something broken comes before
it. -/
def attributeWhere (p : List Char → Bool) (content : List Char) : Option (Option (List Char)) :=
  let (attributes, broken) := tagAttributes content
  match attributes.find? fun a => p a.name with
  | some a => some (some a.value)
  | none => if broken then none else some none

end ReportSheets.Xml
