import ReportSheets.Proofs.Workbook.Loaded
import ReportSheets.Proofs.Xml.Events
import ReportSheets.Proofs.Xml.Numbered

namespace ReportSheets

theorem byteCharacters_toUTF8 (text : List Char) :
    byteCharacters (String.ofList text).toUTF8 = Text.byteText text := by
  have encoded : (String.ofList text).toUTF8 = text.utf8Encode := by simp [String.toUTF8]
  rw [byteCharacters, encoded, toList_utf8Encode, List.map_flatMap, Text.byteText]

namespace Xml

theorem return_not_mem_writeNumbered (text : List Char) : '\r' ∉ writeNumbered text := by
  intro member
  exact absurd (writable_writeNumbered text '\r' member) (by decide)

end Xml

namespace Template

open Xml

variable {more : List Event}

theorem stringItem_plain (text : String) (more : List Event) :
    stringItem (Text.byteText Packed.itemName.text) false
      ((Element.holding (.ofText "t" rfl) [(.ofText "xml:space" rfl, "preserve".toList)]
        (Packed.plainText text)).events ++ Packed.itemName.finish :: more) =
      some (some (readNumbered (Packed.plainText text)), more) := by
  have tells := (textEvents_escape (Packed.plainText text)).2 (return_not_mem_writeNumbered _)
  rw [Element.events, List.cons_append, List.append_assoc, Name.start, stringItem,
    Name.elementName_bytes, Name.tagName_bytes, if_neg (by decide), if_neg (by decide),
    if_pos (by decide), List.singleton_append, Name.finish, tells.textUntil]
  simp only [Name.finish, Option.bind_eq_bind, Option.bind_some, pastEnd, if_true]
  rfl

theorem stringTable_item (text : String) :
    stringTable ((Packed.plainItem text).events ++ more) =
      (stringTable more).map (readNumbered (Packed.plainText text) :: ·) := by
  have item := stringItem_plain text more
  rw [Packed.plainItem, Element.events, List.cons_append, Name.start, stringTable,
    if_pos (by rw [Name.elementName_bytes]; decide), Element.eventsAll, Element.eventsAll,
    List.append_nil, List.append_assoc, List.singleton_append, Name.tagName_bytes]
  split
  · rename_i none
    rw [item] at none
    cases none
  · rename_i found left some
    rw [item] at some
    cases some
    rfl

theorem stringTable_items (texts : List String) :
    stringTable (Element.eventsAll (texts.map Packed.plainItem) ++ more) =
      (stringTable more).map ((texts.map fun text => readNumbered (Packed.plainText text)) ++ ·) := by
  induction texts with
  | nil =>
    rw [List.map_nil, List.map_nil, Element.eventsAll, List.nil_append]
    simp
  | cons text texts ih =>
    rw [List.map_cons, Element.eventsAll, List.append_assoc, stringTable_item, ih, Option.map_map,
      List.map_cons]
    rfl

end Template

namespace SavedBook

open Xml

theorem textTable_of_plain {texts : List String} (plain : texts.any Packed.isMarkup = false) :
    Packed.textTable texts = document (.around Packed.tableName
      [(Packed.space, Package.mainSpace.toList)] (texts.map Packed.plainItem)) := by
  have items : texts.flatMap Packed.item = Element.writtenAll (texts.map Packed.plainItem) := by
    induction texts with
    | nil => rfl
    | cons text texts ih =>
      rw [List.any_cons, Bool.or_eq_false_iff] at plain
      rw [List.flatMap_cons, ih plain.2, Packed.item, plain.1, if_neg Bool.false_ne_true]
      rfl
  rw [Packed.textTable, items]
  rfl

theorem items?_of_plain {texts : List String} (plain : texts.any Packed.isMarkup = false) :
    items? texts = some (texts.map fun text => readNumbered (Packed.plainText text)) := by
  have ends : Template.stringTable [Packed.tableName.finish] = some [] := by
    rw [Name.finish, Template.stringTable, if_pos (by decide)]
  rw [items?, byteCharacters_toUTF8, textTable_of_plain plain, events_document, Element.events,
    Template.stringTable, Name.start, Template.stringTable,
    if_neg (by rw [Name.elementName_bytes]; decide), Template.stringTable_items, ends,
    Option.map_some, List.append_nil]

end SavedBook

end ReportSheets
