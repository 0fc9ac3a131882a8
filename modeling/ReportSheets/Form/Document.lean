import ReportSheets.Form.Field
import ReportSheets.Xml.Nesting

namespace ReportSheets

namespace Field

def elementName : List Char := "Field".toList

def withAttribute (field : Field) (name value : List Char) : Field :=
  if name = "name".toList then { field with name := String.ofList value }
  else if name = "strComment".toList then { field with location := String.ofList value }
  else if name = "strEditFormula".toList then { field with formula := String.ofList value }
  else field

def ofAttributes (field : Field) : List Xml.Attribute → Except Error Field
  | [] => .ok field
  | a :: more =>
    match Xml.unescape? a.value with
    | some value => ofAttributes (field.withAttribute a.name value) more
    | none => .error .malformedForm

def ofTag (content : List Char) : Except Error Field :=
  let (attributes, broken) := Xml.tagAttributes content
  (ofAttributes {} attributes).bind fun field =>
    if broken then .error .malformedFormAttribute else .ok field

def ofTags : List (List Char) → Except Error (List Field)
  | [] => .ok []
  | content :: more =>
    if Xml.elementName content = elementName then do
      let field ← ofTag content
      return field :: (← ofTags more)
    else ofTags more

def readAll (document : String) : Except Error (List Field) := do
  let (tags, broken) := Xml.openings document.toList
  let fields ← ofTags tags
  if broken then throw .malformedForm
  return fields

end Field

end ReportSheets
