import ReportSheets.Proofs.Sheet.SortedMap
import ReportSheets.Proofs.Template.Tags
import ReportSheets.Template.Import

namespace ReportSheets

namespace Package

variable {α : Type} {entries : List (String × α)} {key : String} {value : α}

theorem lastOf?_eq_some_iff :
    lastOf? entries key = some value ↔
      ∃ before after, entries = before ++ (key, value) :: after ∧ ∀ e ∈ after, e.1 ≠ key :=
  SortedMap.find?_reverse_eq_some_iff

theorem lastOf?_eq_none_iff : lastOf? entries key = none ↔ ∀ e ∈ entries, e.1 ≠ key := by
  simp [lastOf?]

theorem mem_of_lastOf? (found : lastOf? entries key = some value) : (key, value) ∈ entries := by
  obtain ⟨before, after, rfl, -⟩ := lastOf?_eq_some_iff.1 found
  simp

theorem lastOf?_eq_some_of_mem (distinct : (entries.map Prod.fst).Nodup)
    (member : (key, value) ∈ entries) : lastOf? entries key = some value := by
  obtain ⟨before, after, rfl⟩ := List.append_of_mem member
  refine lastOf?_eq_some_iff.2 ⟨before, after, rfl, ?_⟩
  intro e later same
  rw [List.map_append, List.map_cons] at distinct
  exact (List.nodup_cons.mp (List.nodup_append.mp distinct).2.1).1
    (List.mem_map.mpr ⟨e, later, same⟩)

theorem lastOf?_filter_ne {name : String} (other : key ≠ name) :
    lastOf? (entries.filter fun entry => entry.1 != name) key = lastOf? entries key := by
  have kept : (fun entry : String × α =>
      decide ((entry.1 != name) = true ∧ (entry.1 == key) = true)) =
        fun entry => entry.1 == key := by
    funext entry
    by_cases same : entry.1 = key
    · simp [same, other]
    · simp [same]
  rw [lastOf?, lastOf?, ← List.filter_reverse, List.find?_filter, kept]

def worksheetOf? (package : Package) (targets : List (String × String)) (relation : String) :
    Except Error (Option String) :=
  match lastOf? targets relation with
  | some target => package.readPart? (targetPart target)
  | none => .ok none

def PartGives (package : Package) (targets : List (String × String)) (relation : String)
    (layout : Layout) : Prop :=
  ∃ worksheet, package.worksheetOf? targets relation = .ok (some worksheet) ∧
    sheetDimensions worksheet = .ok layout

variable {package : Package} {targets : List (String × String)} {relation : String}

theorem PartGives.unique {layout other : Layout} (gives : package.PartGives targets relation layout)
    (again : package.PartGives targets relation other) : layout = other := by
  obtain ⟨worksheet, read, given⟩ := gives
  obtain ⟨worksheet', read', given'⟩ := again
  rw [read] at read'
  cases read'
  rw [given] at given'
  cases given'
  rfl

theorem sheetLayouts_cons (package : Package) (targets : List (String × String))
    (entry : String × String) (entries : List (String × String)) :
    package.sheetLayouts targets (entry :: entries) =
      (package.worksheetOf? targets entry.2).bind fun worksheet =>
        (worksheet.mapM sheetDimensions).bind fun layout =>
          (package.sheetLayouts targets entries).bind fun more =>
            .ok ((layout.map fun layout => (entry.1, layout)).toList ++ more) := by
  rw [sheetLayouts, worksheetOf?]
  cases lastOf? targets entry.2 <;> rfl

theorem gathered_of_sheetLayouts {entries : List (String × String)}
    {layouts : List (String × Layout)}
    (done : package.sheetLayouts targets entries = .ok layouts) :
    Gathered (fun entry found => found.1 = entry.1 ∧ package.PartGives targets entry.2 found.2)
      entries layouts := by
  induction entries generalizing layouts with
  | nil =>
    cases done
    exact .nil
  | cons entry entries ih =>
    rw [sheetLayouts_cons] at done
    obtain ⟨worksheet, read, done⟩ := of_bind_ok done
    obtain ⟨layout, given, done⟩ := of_bind_ok done
    obtain ⟨more, later, done⟩ := of_bind_ok done
    cases done
    cases worksheet with
    | none =>
      cases given
      refine .passes ?_ (ih later)
      rintro found ⟨-, worksheet, got, -⟩
      rw [read] at got
      cases got
    | some worksheet =>
      obtain ⟨layout, made, rfl⟩ := map_eq_ok_iff.mp given
      exact .gives ⟨rfl, worksheet, read, made⟩ (ih later)

theorem given_or_missing {entries : List (String × String)} {layouts : List (String × Layout)}
    (done : package.sheetLayouts targets entries = .ok layouts) {entry : String × String}
    (member : entry ∈ entries) :
    (∃ layout, package.PartGives targets entry.2 layout) ∨
      package.worksheetOf? targets entry.2 = .ok none := by
  induction entries generalizing layouts with
  | nil => cases member
  | cons first entries ih =>
    rw [sheetLayouts_cons] at done
    obtain ⟨worksheet, read, done⟩ := of_bind_ok done
    obtain ⟨layout, given, done⟩ := of_bind_ok done
    obtain ⟨more, later, -⟩ := of_bind_ok done
    rcases List.mem_cons.mp member with rfl | among
    · cases worksheet with
      | none => exact .inr read
      | some worksheet =>
        obtain ⟨layout, made, -⟩ := map_eq_ok_iff.mp given
        exact .inl ⟨layout, worksheet, read, made⟩
    · exact ih later among

theorem readPart?_of_missing {name : String} (missing : package.part? name = none) :
    package.readPart? name = .ok none := by
  rw [readPart?, missing]
  rfl

theorem fromUTF8?_toUTF8 (text : String) : String.fromUTF8? text.toUTF8 = some text := by
  have valid : text.toUTF8.IsValidUTF8 := text.isValidUTF8
  rw [String.fromUTF8?, dif_pos valid]
  rfl

theorem readText_toUTF8 (name text : String) :
    readText name (.bytes text.toUTF8 none) = .ok text := by
  rw [readText, fromUTF8?_toUTF8]

def ofTexts (parts : List (String × String)) : Package :=
  .ofParts (parts.map fun (name, text) => (name, text.toUTF8))

theorem readPart?_ofTexts (parts : List (String × String)) (name : String) :
    (ofTexts parts).readPart? name =
      .ok ((parts.find? fun entry => entry.1 == name).map (·.2)) := by
  have found : (ofTexts parts).part? name = (parts.find? fun entry => entry.1 == name).map
      fun entry => .bytes entry.2.toUTF8 none := by
    rw [part?, ofTexts, ofParts, List.map_map, List.find?_map, Option.map_map]
    rfl
  rw [readPart?, found]
  cases parts.find? fun entry => entry.1 == name with
  | none => rfl
  | some entry =>
    show (readText name (.bytes entry.2.toUTF8 none)).map some = _
    rw [readText_toUTF8]
    rfl

theorem dimensions_of_parts {workbook relationships : String}
    (listing : package.readPart? workbookPart = .ok (some workbook))
    (relating : package.readPart? relationshipsPart = .ok (some relationships)) :
    package.dimensions = (relationTargets relationships).bind fun targets =>
      (sheetRelations workbook).bind fun entries => package.sheetLayouts targets entries := by
  rw [dimensions, listing, relating]
  rfl

theorem exists_of_mem_dimensions {layouts : List (String × Layout)}
    (done : package.dimensions = .ok layouts) {found : String × Layout} (member : found ∈ layouts) :
    ∃ part worksheet, package.readPart? part = .ok (some worksheet) ∧
      sheetDimensions worksheet = .ok found.2 := by
  obtain ⟨workbook, listing, done⟩ := of_bind_ok done
  obtain ⟨relationships, relating, done⟩ := of_bind_ok done
  cases workbook with
  | none =>
    cases done
    cases member
  | some workbook =>
    cases relationships with
    | none =>
      cases done
      cases member
    | some relationships =>
      obtain ⟨targets, -, done⟩ := of_bind_ok done
      obtain ⟨entries, -, done⟩ := of_bind_ok done
      obtain ⟨entry, -, -, worksheet, read, given⟩ :=
        (gathered_of_sheetLayouts done).exists_of_mem member
      unfold worksheetOf? at read
      cases last : lastOf? targets entry.2 with
      | none =>
        rw [last] at read
        cases read
      | some target =>
        rw [last] at read
        exact ⟨targetPart target, worksheet, read, given⟩

theorem exists_of_workbook {path : String} {wb : Workbook}
    (imported : package.workbook path = .ok wb) :
    ∃ outline layouts, Template.outline? package = some outline ∧ package.dimensions = .ok layouts ∧
      Template.sheetsOf package outline layouts (outline.sheets.map (·.name)) = .ok wb.sheets := by
  rw [workbook] at imported
  cases outlined : Template.outline? package with
  | none =>
    rw [outlined] at imported
    cases imported
  | some outline =>
    rw [outlined] at imported
    obtain ⟨layouts, measured, imported⟩ := of_bind_ok imported
    obtain ⟨sheets, read, imported⟩ := of_bind_ok imported
    cases imported
    exact ⟨outline, layouts, rfl, measured, read⟩

end Package

def Sheet.measured (sheet : Sheet) (dimensions : Option Layout) : Sheet :=
  { sheet with
    layout := match dimensions with
      | some found => { found with merged := sheet.layout.merged }
      | none => sheet.layout }

namespace Template

variable {package : Package} {outline : Outline} {layouts : List (String × Layout)}
  {name : String} {names : List String} {sheet : Sheet} {sheets : List Sheet}

theorem bare_of_sheetOf (read : sheetOf package outline name = .ok sheet) :
    sheet.name = name ∧ sheet.layout.columns = [] ∧ sheet.layout.rowHeights = .empty := by
  simp only [sheetOf] at read
  split at read
  · cases read
  · split at read
    · cases read
    · split at read
      · cases read
      · cases read
        exact ⟨rfl, rfl, rfl⟩

theorem sheetsOf_cons (package : Package) (outline : Outline) (layouts : List (String × Layout))
    (name : String) (names : List String) :
    sheetsOf package outline layouts (name :: names) =
      (sheetOf package outline name).bind fun sheet =>
        (sheetsOf package outline (layouts.filter fun entry => entry.1 != name) names).bind
          fun sheets => .ok (sheet.measured (Package.lastOf? layouts name) :: sheets) := rfl

theorem exists_of_mem_sheetsOf (read : sheetsOf package outline layouts names = .ok sheets)
    (member : sheet ∈ sheets) :
    ∃ name given dimensions, sheetOf package outline name = .ok given ∧
      sheet = given.measured dimensions ∧
      ∀ layout, dimensions = some layout → (name, layout) ∈ layouts := by
  induction names generalizing layouts sheets with
  | nil =>
    cases read
    cases member
  | cons name names ih =>
    rw [sheetsOf_cons] at read
    obtain ⟨given, found, read⟩ := of_bind_ok read
    obtain ⟨more, later, read⟩ := of_bind_ok read
    cases read
    rcases List.mem_cons.mp member with rfl | among
    · exact ⟨name, given, _, found, rfl, fun layout => Package.mem_of_lastOf?⟩
    · obtain ⟨name', given', dimensions, found', same, listed⟩ := ih later among
      exact ⟨name', given', dimensions, found', same,
        fun layout is => List.mem_of_mem_filter (listed layout is)⟩

/-- Sheets of distinct names have each the last layout of its name. -/
theorem forall₂_of_sheetsOf (distinct : names.Nodup)
    (read : sheetsOf package outline layouts names = .ok sheets) :
    List.Forall₂ (fun name sheet => ∃ given, sheetOf package outline name = .ok given ∧
      sheet = given.measured (Package.lastOf? layouts name)) names sheets := by
  induction names generalizing layouts sheets with
  | nil =>
    cases read
    exact .nil
  | cons name names ih =>
    obtain ⟨fresh, distinct⟩ := List.nodup_cons.mp distinct
    rw [sheetsOf_cons] at read
    obtain ⟨given, found, read⟩ := of_bind_ok read
    obtain ⟨more, later, read⟩ := of_bind_ok read
    cases read
    refine .cons ⟨given, found, rfl⟩ (imp_of_mem (ih distinct later) ?_)
    rintro other member sheet ⟨given, found, same⟩
    have apart : other ≠ name := fun is => fresh (is ▸ member)
    rw [Package.lastOf?_filter_ne apart] at same
    exact ⟨given, found, same⟩

end Template

namespace Package

open Xml

/-- The part that a target means: one counted from the folder of the workbook part, unless the
target begins with a slash. -/
inductive Means : String → String → Prop
  | absolute (part : String) : Means ("/" ++ part) part
  | relative {target : String} (relative : target.toList.head? ≠ some '/') :
      Means target ("xl/" ++ target)

theorem targetPart_of_means {target part : String} (means : Means target part) :
    targetPart target = part := by
  cases means with
  | absolute =>
    have after : Text.after? ['/'] ("/" ++ part).toList = some part.toList := by
      rw [Text.after?_eq_some_iff, String.toList_append]
      rfl
    simp only [targetPart, after, String.ofList_toList]
  | relative relative =>
    have none : Text.after? ['/'] target.toList = none := by
      rw [Option.eq_none_iff_forall_ne_some]
      intro rest after
      rw [Text.after?_eq_some_iff.mp after] at relative
      exact relative rfl
    simp only [targetPart, none]

variable {package : Package} {relations : List (String × String)} {relation : String}

theorem worksheetOf?_of_related (distinct : (relations.map Prod.fst).Nodup) {target part : String}
    (related : (relation, target) ∈ relations) (means : Means target part) :
    package.worksheetOf? relations relation = package.readPart? part := by
  rw [worksheetOf?, lastOf?_eq_some_of_mem distinct related]
  show package.readPart? (targetPart target) = _
  rw [targetPart_of_means means]

theorem worksheetOf?_of_unrelated (unrelated : ∀ target, (relation, target) ∉ relations) :
    package.worksheetOf? relations relation = .ok none := by
  have none : lastOf? relations relation = none := by
    rw [lastOf?_eq_none_iff]
    rintro ⟨other, target⟩ member rfl
    exact unrelated target member
  rw [worksheetOf?, none]

/-- The widths and heights are those of the worksheet part that the relationship of that identifier
means, and there are none without the relationship or the part. -/
structure Measured (package : Package) (relations : List (String × String)) (relation : String)
    (columns : List ColumnWidth) (heights : SortedMap Nat Binary64) : Prop where
  part : ∀ {target part worksheet}, (relation, target) ∈ relations → Means target part →
    package.readPart? part = .ok (some worksheet) →
    ∃ layout, sheetDimensions worksheet = .ok layout ∧ columns = layout.columns ∧
      heights = layout.rowHeights
  noPart : ∀ {target part}, (relation, target) ∈ relations → Means target part →
    package.part? part = none → columns = [] ∧ heights = .empty
  noRelation : (∀ target, (relation, target) ∉ relations) → columns = [] ∧ heights = .empty

theorem PartGives.measured (distinct : (relations.map Prod.fst).Nodup) {layout : Layout}
    (gives : package.PartGives relations relation layout) :
    package.Measured relations relation layout.columns layout.rowHeights := by
  obtain ⟨worksheet, read, given⟩ := gives
  constructor
  · intro target part worksheet' related means present
    rw [worksheetOf?_of_related distinct related means, present] at read
    cases read
    exact ⟨layout, given, rfl, rfl⟩
  · intro target part related means missing
    rw [worksheetOf?_of_related distinct related means, readPart?_of_missing missing] at read
    cases read
  · intro unrelated
    rw [worksheetOf?_of_unrelated unrelated] at read
    cases read

theorem measured_of_missing (distinct : (relations.map Prod.fst).Nodup)
    (missing : package.worksheetOf? relations relation = .ok none) :
    package.Measured relations relation [] .empty := by
  constructor
  · intro target part worksheet related means present
    rw [worksheetOf?_of_related distinct related means, present] at missing
    cases missing
  · intro target part related means absent
    exact ⟨rfl, rfl⟩
  · intro unrelated
    exact ⟨rfl, rfl⟩

/-- Each sheet has the widths and heights of the part that its own relationship means, or none, and
keeps its cells and its merged ranges. -/
theorem dimensions_reach_sheets {path : String} {wb : Workbook} {outline : Template.Outline}
    {workbook relationships : String} {entries relations : List (String × String)}
    (imported : package.workbook path = .ok wb)
    (outlined : Template.outline? package = some outline)
    (listing : package.readPart? workbookPart = .ok (some workbook))
    (lists : Gathered (Lists "sheet" "name" "id") (openings workbook.toList).1 entries)
    (relating : package.readPart? relationshipsPart = .ok (some relationships))
    (relates : Gathered (Lists "Relationship" "Id" "Target") (openings relationships.toList).1
      relations)
    (names : (entries.map Prod.fst).Nodup) (identifiers : (relations.map Prod.fst).Nodup)
    (reported : outline.sheets.map (·.name) = entries.map Prod.fst) :
    List.Forall₂ (fun entry sheet => sheet.name = entry.1 ∧
      package.Measured relations entry.2 sheet.layout.columns sheet.layout.rowHeights ∧
      ∃ given, Template.sheetOf package outline entry.1 = .ok given ∧
        sheet.layout.merged = given.layout.merged ∧ sheet.cells = given.cells)
      entries wb.sheets := by
  obtain ⟨outline', layouts, outlined', done, read⟩ := exists_of_workbook imported
  rw [outlined] at outlined'
  cases outlined'
  rw [reported] at read
  have located : package.sheetLayouts relations entries = .ok layouts := by
    rw [dimensions_of_parts listing relating] at done
    obtain ⟨targets, related, done⟩ := of_bind_ok done
    obtain ⟨listed, scanned, done⟩ := of_bind_ok done
    have same := (gathered_of_relationTargets related).unique lists_unique relates
    have same' := (gathered_of_sheetRelations scanned).unique lists_unique lists
    rwa [same, same'] at done
  have gathered := gathered_of_sheetLayouts located
  refine imp_of_mem (List.forall₂_map_left_iff.mp (Template.forall₂_of_sheetsOf names read)) ?_
  rintro ⟨name, relation⟩ member sheet ⟨given, found, rfl⟩
  obtain ⟨named, columns, heights⟩ := Template.bare_of_sheetOf found
  cases last : lastOf? layouts name with
  | some layout =>
    obtain ⟨entry, among, same, gives⟩ := gathered.exists_of_mem (mem_of_lastOf? last)
    have own : entry = (name, relation) := List.inj_on_of_nodup_map names among member same.symm
    rw [own] at gives
    exact ⟨named, gives.measured identifiers, given, found, rfl, rfl⟩
  | none =>
    have absent := lastOf?_eq_none_iff.mp last
    rcases given_or_missing located member with ⟨layout, gives⟩ | missing
    · have unique : ∀ {entry : String × String} {found other : String × Layout},
          found.1 = entry.1 ∧ package.PartGives relations entry.2 found.2 →
          other.1 = entry.1 ∧ package.PartGives relations entry.2 other.2 → found = other := by
        intro entry found other first second
        exact Prod.ext (first.1.trans second.1.symm) (first.2.unique second.2)
      have among : (name, layout) ∈ layouts := gathered.mem_of_gives unique member ⟨rfl, gives⟩
      exact absurd rfl (absent _ among)
    · have bare := measured_of_missing identifiers missing
      rw [← columns, ← heights] at bare
      exact ⟨named, bare, given, found, rfl, rfl⟩

def shuffledSheets : String :=
  "<workbook><sheet r:id='b' name='B'/><sheet name='A' r:id='a'/></workbook>"

def shuffledRelations : String :=
  "<Relationships><Relationship Target='/xl/worksheets/a' Id='a'/>" ++
    "<Relationship Id='b' Target='worksheets/b'/></Relationships>"

def shuffled : Package :=
  ofTexts [(workbookPart, shuffledSheets), (relationshipsPart, shuffledRelations),
    ("xl/worksheets/a", "<sheetData/><cols><col max='2' min='1' width='3'/></cols>"),
    ("xl/worksheets/b", "<sheetData><row ht='5' r='2' customHeight='1'/></sheetData>" ++
      "<mergeCells><mergeCell ref='A1:B2'/></mergeCells>")]

theorem dimensions_reach_shuffled_sheets :
    ∃ wb outline, shuffled.workbook "t.xlsx" = .ok wb ∧ Template.outline? shuffled = some outline ∧
      (wb.sheets.map fun sheet => (sheet.name, sheet.layout)) =
        [("B", ⟨[⟨⟨0, 0⟩, ⟨1, 1⟩⟩], [], .ofList [(1, .ofNat 5)]⟩),
          ("A", ⟨[], [⟨0, 1, .ofNat 3⟩], .empty⟩)] ∧
      List.Forall₂ (fun entry sheet => sheet.name = entry.1 ∧
        shuffled.Measured [("a", "/xl/worksheets/a"), ("b", "worksheets/b")] entry.2
          sheet.layout.columns sheet.layout.rowHeights ∧
        ∃ given, Template.sheetOf shuffled outline entry.1 = .ok given ∧
          sheet.layout.merged = given.layout.merged ∧ sheet.cells = given.cells)
        [("B", "b"), ("A", "a")] wb.sheets := by
  have layouts : ((shuffled.workbook "t.xlsx").toOption.map fun wb =>
      wb.sheets.map fun sheet => (sheet.name, sheet.layout)) =
        some [("B", ⟨[⟨⟨0, 0⟩, ⟨1, 1⟩⟩], [], .ofList [(1, .ofNat 5)]⟩),
          ("A", ⟨[], [⟨0, 1, .ofNat 3⟩], .empty⟩)] := by decide +kernel
  have names : ((Template.outline? shuffled).map fun outline => outline.sheets.map (·.name)) =
      some ["B", "A"] := by decide +kernel
  have listing : shuffled.readPart? workbookPart = .ok (some shuffledSheets) := by
    rw [shuffled, readPart?_ofTexts]
    rfl
  have relating : shuffled.readPart? relationshipsPart = .ok (some shuffledRelations) := by
    rw [shuffled, readPart?_ofTexts]
    rfl
  have lists : (sheetRelations shuffledSheets).toOption = some [("B", "b"), ("A", "a")] := by
    decide +kernel
  have relates : (relationTargets shuffledRelations).toOption =
      some [("a", "/xl/worksheets/a"), ("b", "worksheets/b")] := by decide +kernel
  obtain ⟨wb, imported, shown⟩ := Option.map_eq_some_iff.mp layouts
  obtain ⟨outline, outlined, reported⟩ := Option.map_eq_some_iff.mp names
  have listed := gathered_of_sheetRelations (ok_of_toOption lists)
  have related := gathered_of_relationTargets (ok_of_toOption relates)
  refine ⟨wb, outline, ok_of_toOption imported, outlined, shown, ?_⟩
  exact dimensions_reach_sheets (ok_of_toOption imported) outlined listing listed relating related
    (by decide) (by decide) reported

end Package

end ReportSheets
