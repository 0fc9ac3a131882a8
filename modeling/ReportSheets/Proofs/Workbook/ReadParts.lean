import ReportSheets.Proofs.Template.References
import ReportSheets.Proofs.Template.Sheets
import ReportSheets.Proofs.Text.Lowercase
import ReportSheets.Proofs.Workbook.TextTable

namespace ReportSheets

open Text (natural byteText)

/-- Under distinct keys the item found by a key is the one that has it. -/
theorem find?_of_nodup {α β : Type} [BEq β] [LawfulBEq β] (key : α → β) {items : List α} {item : α}
    (distinct : (items.map key).Nodup) (member : item ∈ items) :
    items.find? (fun other => key other == key item) = some item := by
  obtain ⟨before, after, rfl⟩ := List.append_of_mem member
  refine List.find?_eq_some_iff_append.mpr ⟨beq_self_eq_true _, before, after, rfl, ?_⟩
  intro other earlier
  rw [List.map_append, List.map_cons] at distinct
  have apart := (List.nodup_append.mp distinct).2.2 (key other)
    (List.mem_map_of_mem earlier) (key item) List.mem_cons_self
  simpa using apart

theorem natural_injective {n m : Nat} (same : natural n = natural m) : n = m := by
  rw [← Text.naturalOf_natural n, same, Text.naturalOf_natural]

def foldedPart (name : String) : List Char := name.toList.map Char.toLower

namespace Packed

variable {book : SavedBook} {texts : List String} {entry : SavedSheet × Nat}

def sheetsFolder : List Char := "xl/worksheets/sheet".toList

theorem foldedPart_worksheetPart (texts : List String) (entry : SavedSheet × Nat) :
    foldedPart (worksheetPart texts entry).name =
      sheetsFolder ++ (natural entry.2 ++ ".xml".toList) := by
  have digits : (natural entry.2).map Char.toLower = natural entry.2 := by
    refine (List.map_congr_left fun c member => ?_).trans (List.map_id _)
    have bounds := Text.isDigit_iff.1 (Text.isDigit_of_mem_natural member)
    exact Text.toLower_of_not_capital (by rw [Text.IsCapital]; omega)
  have front : "xl/".toList.map Char.toLower ++ "worksheets/sheet".toList.map Char.toLower =
      sheetsFolder := by decide
  have back : ".xml".toList.map Char.toLower = ".xml".toList := by decide
  have name : (worksheetPart texts entry).name =
      String.ofList ("xl/".toList ++ ("worksheets/sheet".toList ++
        (natural entry.2 ++ ".xml".toList))) := rfl
  rw [foldedPart, name, String.toList_ofList, List.map_append, List.map_append, List.map_append,
    digits, back, ← front, List.append_assoc]

theorem nodup_numbers (book : SavedBook) : ((numbered book).map Prod.snd).Nodup := by
  rw [numbered, List.zipIdx_map_snd]
  exact List.nodup_range'

def mainParts : List String :=
  ["[Content_Types].xml", "_rels/.rels", Package.workbookPart, Package.relationshipsPart,
    Package.stringsPart]

theorem not_prefix_of_mem_mainParts :
    ∀ name ∈ mainParts, ¬ sheetsFolder <+: foldedPart name := by decide

theorem prefix_worksheetPart (texts : List String) (entry : SavedSheet × Nat) :
    sheetsFolder <+: foldedPart (worksheetPart texts entry).name := by
  rw [foldedPart_worksheetPart]
  exact List.prefix_append _ _

theorem nodup_parts (book : SavedBook) :
    (book.parts.map fun part => foldedPart part.name).Nodup := by
  have main : (mainParts.map foldedPart).Nodup := by decide
  have sheets : ((numbered book).map fun entry =>
      foldedPart (worksheetPart book.texts entry).name).Nodup := by
    have byNumber := (nodup_numbers book).map (f := fun n => sheetsFolder ++
      (natural n ++ ".xml".toList)) fun n m same =>
        natural_injective (List.append_cancel_right (List.append_cancel_left same))
    rw [List.map_map] at byNumber
    simpa only [foldedPart_worksheetPart, Function.comp_def] using byNumber
  rw [SavedBook.parts, List.map_append, List.map_map]
  refine List.nodup_append.mpr ⟨main, sheets, ?_⟩
  rintro name first other later rfl
  obtain ⟨known, among, rfl⟩ := List.mem_map.mp (show name ∈ mainParts.map foldedPart from first)
  obtain ⟨entry, -, same⟩ := List.mem_map.mp later
  refine not_prefix_of_mem_mainParts known among ?_
  rw [← same]
  exact prefix_worksheetPart book.texts entry

theorem partFolded?_of_mem (part : Archive.Part) (member : part ∈ book.parts) :
    book.package.partFolded? part.name = some (.bytes part.content none) := by
  have found := find?_of_nodup (fun part => foldedPart part.name) (nodup_parts book) member
  rw [Package.partFolded?, SavedBook.package, Package.ofParts, List.map_map, List.find?_map]
  show (((book.parts.find? fun other =>
    foldedPart other.name == foldedPart part.name).map _).map _) = _
  rw [found]
  rfl

theorem part?_of_mem (part : Archive.Part) (member : part ∈ book.parts) :
    book.package.part? part.name = some (.bytes part.content none) := by
  have distinct : (book.parts.map Archive.Part.name).Nodup := by
    have folded : ((book.parts.map Archive.Part.name).map foldedPart).Nodup := by
      rw [List.map_map]
      exact nodup_parts book
    exact folded.of_map
  have found := find?_of_nodup Archive.Part.name distinct member
  rw [Package.part?, SavedBook.package, Package.ofParts, List.map_map, List.find?_map]
  show (((book.parts.find? fun other => other.name == part.name).map _).map _) = _
  rw [found]
  rfl

theorem strings_mem_parts (book : SavedBook) :
    part Package.stringsPart (textTable book.texts) ∈ book.parts := by simp [SavedBook.parts]

theorem relationships_mem_parts (book : SavedBook) :
    part Package.relationshipsPart (Xml.document (relationships (workbookRelationships book))) ∈
      book.parts := by simp [SavedBook.parts]

theorem workbook_mem_parts (book : SavedBook) :
    part Package.workbookPart (Xml.document (workbook book)) ∈ book.parts := by
  simp [SavedBook.parts]

theorem mem_parts_of_mem_numbered (member : entry ∈ numbered book) :
    part (sheetFile entry.2) (Xml.document (worksheet book.texts entry.1)) ∈ book.parts :=
  List.mem_append_right _ (List.mem_map_of_mem member)

theorem partFolded?_part {name : String} {text : List Char} (member : part name text ∈ book.parts) :
    book.package.partFolded? name = some (.bytes (String.ofList text).toUTF8 none) :=
  partFolded?_of_mem (part name text) member

theorem part?_part {name : String} {text : List Char} (member : part name text ∈ book.parts) :
    book.package.part? name = some (.bytes (String.ofList text).toUTF8 none) :=
  part?_of_mem (part name text) member

theorem partFolded?_styles (book : SavedBook) :
    book.package.partFolded? Package.stylesPart = none := by
  have main : ∀ name ∈ mainParts, foldedPart name ≠ foldedPart Package.stylesPart := by decide
  have apart : ¬ sheetsFolder <+: foldedPart Package.stylesPart := by decide
  have other : ∀ part ∈ book.parts, foldedPart part.name ≠ foldedPart Package.stylesPart := by
    intro part member same
    rcases List.mem_append.mp member with first | later
    · have among : part.name ∈ mainParts :=
        List.mem_map_of_mem (f := Archive.Part.name) first
      exact main part.name among same
    · obtain ⟨entry, -, rfl⟩ := List.mem_map.mp later
      exact apart (same ▸ prefix_worksheetPart book.texts entry)
  have none : (book.parts.find? fun other => foldedPart other.name == foldedPart Package.stylesPart) =
      none := by
    rw [List.find?_eq_none]
    intro part member same
    exact other part member (beq_iff_eq.mp same)
  rw [Package.partFolded?, SavedBook.package, Package.ofParts, List.map_map, List.find?_map]
  show (((book.parts.find? fun other =>
    foldedPart other.name == foldedPart Package.stylesPart).map _).map _) = _
  rw [none]
  rfl

end Packed

namespace Archive.Content

variable (root : Xml.Element)

theorem events?_toUTF8 (text : List Char) :
    (Archive.Content.bytes (String.ofList text).toUTF8 none).events? =
      some (Xml.events (byteText text)) := by
  rw [events?, byteCharacters_toUTF8]
  simp only [Option.isSome_none, Bool.or_false]

theorem events?_document :
    (Archive.Content.bytes (String.ofList (Xml.document root)).toUTF8 none).events? =
    some (.text (some ['\n']) :: root.events, false) := by
  rw [events?_toUTF8, Xml.events_document]

end Archive.Content

end ReportSheets
