import ReportSheets.Proofs.Workbook.ReadParts

namespace ReportSheets.Template

open Xml Packed
open Text (natural byteText)

variable {own : Name} {attributes : List (Name × List Char)} {more rest : List Event}

theorem attributes?_tag (apart : Apart attributes) :
    attributes? (byteText (own.tag attributes)) =
      some (rawAttributes (encodedAttributes attributes)) := by
  rw [attributes?, ← Name.tag_encoded, Name.tagAttributes_tag _ (apart_encoded apart)]
  rfl

structure BareRelationship (r : Relationship) : Prop where
  id : IsBare r.id
  target : IsBare r.target

theorem decode?_bare {text : List Char} (bare : IsBare text) :
    Text.Encoding.utf8.decode? text = some text := by
  have read := Text.decode?_byteText text
  rwa [Text.byteText_of_ascii fun c member => (bare c member).1] at read

theorem apart_relationship (r : Relationship) : Apart (relationshipAttributes r) :=
  (by decide : ["Id".toList, "Type".toList, "Target".toList].Nodup)

theorem relation?_relationship {r : Relationship} (bare : BareRelationship r) :
    relation? (byteText (own.tag (relationshipAttributes r))) .utf8 = some (r.id, r.target) := by
  have raw : rawAttributes (encodedAttributes (relationshipAttributes r)) =
      [⟨"Id".toList, escape (byteText r.id)⟩,
        ⟨"Type".toList, escape (byteText (Package.relationSpace ++ "/" ++ r.kind).toList)⟩,
        ⟨"Target".toList, escape (byteText r.target)⟩] := rfl
  have id : withRelationAttribute .utf8 ([], []) ⟨"Id".toList, r.id⟩ = some (r.id, []) := rfl
  have type : ∀ value, withRelationAttribute .utf8 (r.id, []) ⟨"Type".toList, value⟩ =
      some (r.id, []) := fun value => rfl
  have target : withRelationAttribute .utf8 (r.id, []) ⟨"Target".toList, r.target⟩ =
      some (r.id, r.target) := by
    have other : "Target".toList ≠ "Id".toList := by decide
    rw [withRelationAttribute, if_neg other, if_pos rfl, decode?_bare bare.target]
    rfl
  rw [relation?, attributes?_tag (apart_relationship r), Option.bind_some, raw,
    bare.id.escape_byteText, bare.target.escape_byteText]
  simp only [List.foldlM_cons, List.foldlM_nil, id, type, target, Option.bind_eq_bind,
    Option.bind_some, Option.pure_def]

theorem relationships?_relationships {targets : List Relationship}
    (bare : ∀ r ∈ targets, BareRelationship r) (found : List Relation) (more : List Event) :
    relationships? found (Element.eventsAll (targets.map relationship) ++
      (Name.ofText "Relationships" rfl).finish :: more) =
        some ((targets.map fun r => (r.id, r.target)).reverse ++ found) := by
  induction targets generalizing found with
  | nil =>
    show relationships? found ((Name.ofText "Relationships" rfl).finish :: more) = some found
    rw [Name.finish, relationships?, if_pos (by decide)]
  | cons r targets ih =>
    obtain ⟨first, bare⟩ := List.forall_mem_cons.mp bare
    rw [List.map_cons, Element.eventsAll_cons, relationship, Element.events, List.cons_append,
      Name.start, relationships?, if_pos (by rw [Name.elementName_bytes]; decide),
      relation?_relationship first, Option.bind_some, List.singleton_append, Name.finish,
      relationships?, if_neg (by decide), ih bare]
    simp

theorem relationships?_document {targets : List Relationship}
    (bare : ∀ r ∈ targets, BareRelationship r) :
    relationships? [] (.text (some ['\n']) :: (relationships targets).events) =
      some (targets.map fun r => (r.id, r.target)).reverse := by
  have read := relationships?_relationships bare [] []
  rw [List.append_nil] at read
  rw [relationships, relationships?, Element.events, Name.start, relationships?,
    if_neg (by rw [Name.elementName_bytes]; decide), read]

theorem bare_relation (n : Nat) : IsBare (relation n) :=
  .append (by simp [IsBare, Xml.marks]) (.natural n)

theorem bare_worksheetFile (n : Nat) : IsBare (worksheetFile n) := by
  have front : IsBare "worksheets/sheet".toList := by simp [IsBare, Xml.marks]
  have back : IsBare ".xml".toList := by simp [IsBare, Xml.marks]
  exact front.append (.append (.natural n) back)

theorem bare_of_mem_workbookRelationships (book : SavedBook) :
    ∀ r ∈ workbookRelationships book, BareRelationship r := by
  intro r member
  rcases List.mem_append.mp member with sheet | texts
  · obtain ⟨entry, -, rfl⟩ := List.mem_map.mp sheet
    exact ⟨bare_relation _, bare_worksheetFile _⟩
  · rw [List.mem_singleton.mp texts]
    have file : IsBare "sharedStrings.xml".toList := by simp [IsBare, Xml.marks]
    exact ⟨bare_relation _, file⟩

theorem relation_injective {n m : Nat} (same : relation n = relation m) : n = m :=
  natural_injective (List.append_cancel_left same)

theorem nodup_workbookRelationships (book : SavedBook) :
    ((workbookRelationships book).map Relationship.id).Nodup := by
  have ids : (workbookRelationships book).map Relationship.id =
      (List.range' 1 (book.sheets.length + 1)).map relation := by
    rw [workbookRelationships, List.map_append, List.map_map, List.range'_1_concat,
      List.map_append, ← List.zipIdx_map_snd 1 book.sheets, List.map_map, Nat.add_comm 1]
    rfl
  rw [ids]
  exact List.Nodup.map (fun n m => relation_injective) List.nodup_range'

variable {entry : SavedSheet × Nat} {known : List Relation}

theorem apart_sheet (entry : SavedSheet × Nat) : Apart (sheetAttributes entry) :=
  (by decide : ["name".toList, "sheetId".toList, "r:id".toList].Nodup)

theorem isSheetPart_sheetFile (n : Nat) : isSheetPart (sheetFile n) = true := by
  have front : ∀ c ∈ "xl".toList, (c == '/') = false := by simp
  have folder : ∀ c ∈ "worksheets".toList, (c == '/') = false := by simp
  have text : (sheetFile n).toList = "xl".toList ++ '/' :: ("worksheets".toList ++
      '/' :: ("sheet".toList ++ (natural n ++ ".xml".toList))) := String.toList_ofList
  rw [isSheetPart, text, Text.pieces_append_mark front rfl, Text.pieces_append_mark folder rfl]
  rfl

theorem valueText?_escape (text : List Char) :
    valueText? .utf8 (escape (byteText text)) = some text := by
  rw [valueText?, escape_byteText, Text.decode?_byteText, Option.bind_some]
  exact (Quotes.escape text).unescape?

theorem ofTag?_listedSheet (related : known.find? (fun r => r.1 == relation entry.2) =
      some (relation entry.2, worksheetFile entry.2)) :
    SheetEntry.ofTag? known (byteText (own.tag (sheetAttributes entry))) .utf8 =
      some ⟨entry.1.name, sheetFile entry.2⟩ := by
  have raw : rawAttributes (encodedAttributes (sheetAttributes entry)) =
      [⟨"name".toList, escape (byteText entry.1.name.toList)⟩,
        ⟨"sheetId".toList, escape (byteText (natural entry.2))⟩,
        ⟨"r:id".toList, escape (byteText (relation entry.2))⟩] := rfl
  have name : SheetEntry.withAttribute known .utf8 ⟨"", ""⟩
      ⟨"name".toList, escape (byteText entry.1.name.toList)⟩ = some ⟨entry.1.name, ""⟩ := by
    rw [SheetEntry.withAttribute, if_pos rfl, valueText?_escape, Option.map_some,
      String.ofList_toList]
  have number : ∀ value, SheetEntry.withAttribute known .utf8 ⟨entry.1.name, ""⟩
      ⟨"sheetId".toList, value⟩ = some ⟨entry.1.name, ""⟩ := fun value => rfl
  have part : SheetEntry.withAttribute known .utf8 ⟨entry.1.name, ""⟩
      ⟨"r:id".toList, relation entry.2⟩ = some ⟨entry.1.name, sheetFile entry.2⟩ := by
    have others : "r:id".toList ≠ "name".toList ∧ "r:id".toList ≠ "state".toList := by decide
    have own : isRelationName "r:id".toList = true := rfl
    rw [SheetEntry.withAttribute, if_neg others.1, if_neg others.2, if_pos own, related]
    rfl
  rw [SheetEntry.ofTag?, attributes?_tag (apart_sheet entry), raw,
    (bare_relation entry.2).escape_byteText]
  simp only [List.foldlM_cons, List.foldlM_nil, name, number, part, Option.bind_eq_bind,
    Option.bind_some, Option.pure_def, isSheetPart_sheetFile, if_true]

theorem sheetEntries?_sheets {entries : List (SavedSheet × Nat)} {found : List SheetEntry}
    (each : ∀ entry ∈ entries, known.find? (fun r => r.1 == relation entry.2) =
      some (relation entry.2, worksheetFile entry.2))
    (later : sheetEntries? known rest = some found) :
    sheetEntries? known (Element.eventsAll (entries.map listedSheet) ++ rest) =
      some ((entries.map fun entry => ⟨entry.1.name, sheetFile entry.2⟩) ++ found) := by
  induction entries with
  | nil => exact later
  | cons entry entries ih =>
    obtain ⟨related, each⟩ := List.forall_mem_cons.mp each
    rw [List.map_cons, Element.eventsAll_cons, listedSheet, Element.events, List.cons_append,
      Name.start, sheetEntries?, if_pos (by rw [Name.elementName_bytes]; decide),
      ofTag?_listedSheet related, List.singleton_append, Name.finish, sheetEntries?,
      if_neg (by decide), ih each]
    rfl

theorem sheetEntries?_start {name : Name}
    (other : localName (byteText name.text) ≠ "sheet".toList ∧
      byteText name.text ≠ "workbookPr".toList ∧
      localName (byteText name.text) ≠ "definedName".toList) :
    sheetEntries? known (name.start attributes :: rest) = sheetEntries? known rest := by
  rw [Name.start, sheetEntries?, if_neg (by rw [Name.elementName_bytes]; exact other.1),
    if_neg (by rw [Name.tagName_bytes]; exact other.2.1),
    if_neg (by rw [Name.elementName_bytes]; exact other.2.2)]

theorem sheetEntries?_finish {name : Name}
    (other : localName (byteText name.text) ≠ "workbook".toList) :
    sheetEntries? known (name.finish :: rest) = sheetEntries? known rest := by
  rw [Name.finish, sheetEntries?, if_neg other]

theorem sheetEntries?_document {book : SavedBook}
    (each : ∀ entry ∈ numbered book, known.find? (fun r => r.1 == relation entry.2) =
      some (relation entry.2, worksheetFile entry.2)) :
    sheetEntries? known (.text (some ['\n']) :: (workbook book).events) =
      some ((numbered book).map fun entry => ⟨entry.1.name, sheetFile entry.2⟩) := by
  have ends : sheetEntries? known ((Name.ofText "sheets" rfl).finish ::
      [(Name.ofText "workbook" rfl).finish]) = some [] := by
    rw [sheetEntries?_finish (by decide), Name.finish, sheetEntries?, if_pos (by decide)]
  have sheets := sheetEntries?_sheets each ends
  rw [List.append_nil] at sheets
  rw [workbook, sheetEntries?, Element.events, sheetEntries?_start (by decide),
    Element.eventsAll_cons, Element.events_around, sheetEntries?_start (by decide),
    Element.eventsAll_cons, Element.events, List.cons_append, sheetEntries?_start (by decide),
    List.singleton_append, sheetEntries?_finish (by decide), Element.eventsAll, List.nil_append,
    sheetEntries?_finish (by decide), Element.eventsAll_cons, Element.events_around,
    sheetEntries?_start (by decide), Element.eventsAll, List.nil_append, sheets]

theorem related_of_mem {book : SavedBook} (member : entry ∈ numbered book) :
    ((workbookRelationships book).map fun r => (r.id, r.target)).reverse.find?
      (fun r => r.1 == relation entry.2) = some (relation entry.2, worksheetFile entry.2) := by
  have listed : (relation entry.2, worksheetFile entry.2) ∈
      ((workbookRelationships book).map fun r => (r.id, r.target)).reverse := by
    rw [List.mem_reverse]
    exact List.mem_map_of_mem (f := fun r : Relationship => (r.id, r.target))
      (List.mem_append_left _ (List.mem_map_of_mem member))
  refine find?_of_nodup Prod.fst ?_ listed
  rw [List.map_reverse, List.nodup_reverse, List.map_map]
  exact nodup_workbookRelationships book

/-- What is read before the sheets: the texts, if their table is sound, and where each sheet is. -/
theorem outline?_package (book : SavedBook) :
    outline? book.package = (SavedBook.items? book.texts).map fun texts =>
      ⟨texts, (numbered book).map fun entry => ⟨entry.1.name, sheetFile entry.2⟩⟩ := by
  have table := partFolded?_part (strings_mem_parts book)
  have relating := partFolded?_part (relationships_mem_parts book)
  have listing := partFolded?_part (workbook_mem_parts book)
  have relations := relationships?_document (bare_of_mem_workbookRelationships book)
  have sheets := sheetEntries?_document fun entry (member : entry ∈ numbered book) =>
    related_of_mem member
  rw [outline?, SavedBook.items?, byteCharacters_toUTF8]
  simp only [ofPart?, table, partFolded?_styles, relating, listing,
    Archive.Content.events?_toUTF8, events_document, Option.bind_eq_bind, Option.bind_some,
    relations, sheets, Option.pure_def]
  cases stringTable (Xml.events (byteText (textTable book.texts))).1 <;> rfl

end ReportSheets.Template
