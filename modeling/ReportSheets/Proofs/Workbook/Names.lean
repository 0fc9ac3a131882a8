import Mathlib.Data.List.Nodup
import ReportSheets.Proofs.Text.Lowercase
import ReportSheets.Proofs.Workbook.Edited
import ReportSheets.Proofs.Workbook.Saving

namespace ReportSheets

def nameKey (name : String) : List Char := name.toList.map Char.toLower

theorem sameName_iff {a b : String} : sameName a b = true ↔ nameKey a = nameKey b := beq_iff_eq

theorem nodup_nameKey_iff {names : List String} :
    (names.map nameKey).Nodup ↔ names.Pairwise fun a b => sameName a b = false := by
  rw [List.Nodup, List.pairwise_map]
  simp only [Ne, ← sameName_iff, Bool.not_eq_true]

theorem foldedName_eq (name : String) :
    foldedName name = String.ofList (Text.lowercase (nameKey name)) := by
  rw [foldedName, nameKey, Text.lowercase_map_toLower]

theorem sameName_of_ascii {a b : String} (asciiLeft : Text.Ascii a.toList)
    (asciiRight : Text.Ascii b.toList) (same : foldedName a = foldedName b) :
    sameName a b = true := by
  rw [foldedName, foldedName, Text.lowercase_of_ascii asciiLeft,
    Text.lowercase_of_ascii asciiRight, String.ofList_inj] at same
  exact sameName_iff.2 same

namespace Workbook

variable {wb after : Workbook}

structure WellNamed (wb : Workbook) : Prop where
  fit : ∀ name ∈ wb.names, nameFault? name = none
  apart : (wb.names.map nameKey).Nodup

theorem names_append (wb : Workbook) (sheet : Sheet) :
    names { wb with sheets := wb.sheets ++ [sheet] } = wb.names ++ [sheet.name] := by
  simp [names]

/-- Where names are apart, the first sheet of a name is the only one. -/
theorem indexOf?_eq_some_iff (apart : (wb.names.map nameKey).Nodup) {name : String} {index : Nat} :
    wb.indexOf? name = some index ↔
      ∃ other, wb.names[index]? = some other ∧ sameName other name = true := by
  rw [indexOf?, List.findIdx?_eq_some_iff_getElem]
  constructor
  · rintro ⟨inside, same, -⟩
    refine ⟨wb.sheets[index].name, ?_, same⟩
    rw [names, List.getElem?_map, List.getElem?_eq_getElem inside, Option.map_some]
  · rintro ⟨other, named, same⟩
    rw [names, List.getElem?_map, Option.map_eq_some_iff] at named
    obtain ⟨sheet, found, rfl⟩ := named
    obtain ⟨inside, rfl⟩ := List.getElem?_eq_some_iff.mp found
    refine ⟨inside, same, ?_⟩
    -- an earlier sheet of that name would share its key with this one
    intro earlier before alsoSame
    have keys : nameKey wb.sheets[earlier].name = nameKey wb.sheets[index].name :=
      (sameName_iff.1 alsoSame).trans (sameName_iff.1 same).symm
    rw [names, List.map_map] at apart
    have different := List.pairwise_iff_getElem.mp apart earlier index
      (by rw [List.length_map]; omega) (by rwa [List.length_map]) before
    simp only [List.getElem_map] at different
    exact different keys

theorem indexOf?_eq_none_iff {name : String} :
    wb.indexOf? name = none ↔ ∀ other ∈ wb.names, sameName other name = false := by
  rw [indexOf?, List.findIdx?_eq_none_iff, names, List.forall_mem_map]

theorem nameKey_ne_of_free {name : String} (free : wb.indexOf? name = none) :
    ∀ other ∈ wb.names, nameKey other ≠ nameKey name := by
  intro other member same
  obtain ⟨sheet, among, rfl⟩ := List.mem_map.mp member
  have different := List.findIdx?_eq_none_iff.mp free sheet among
  rw [sameName_iff.2 same] at different
  cases different

theorem map_written {α : Type} {f : Sheet → α} {sheet written : Sheet}
    (found : wb.activeSheet? = some sheet) (alike : f written = f sheet) :
    (wb.sheets.set wb.active written).map f = wb.sheets.map f := by
  have there : (wb.sheets.map f)[wb.active]? = some (f sheet) := by
    rw [List.getElem?_map, show wb.sheets[wb.active]? = some sheet from found, Option.map_some]
  obtain ⟨inside, same⟩ := List.getElem?_eq_some_iff.mp there
  rw [List.map_set, alike, ← same, List.set_getElem_self]

theorem names_written {sheet : Sheet} {address : CellAddress} {value : CellValue}
    (found : wb.activeSheet? = some sheet) :
    names { wb with sheets := wb.sheets.set wb.active (sheet.setCell address value) } =
      wb.names :=
  map_written found rfl

theorem apart_of_edited (apart : (wb.names.map nameKey).Nodup) (edited : wb.Edited after) :
    (after.names.map nameKey).Nodup := by
  cases edited with
  | appended sheet fits free =>
    rw [names_append, List.map_append, List.map_singleton, List.nodup_append]
    refine ⟨apart, List.nodup_singleton _, ?_⟩
    intro key member other single
    obtain ⟨name, among, rfl⟩ := List.mem_map.mp member
    rw [List.mem_singleton.mp single]
    exact nameKey_ne_of_free free name among
  | removed index inside =>
    have fewer : (wb.sheets.eraseIdx index).Sublist wb.sheets := List.eraseIdx_sublist _ _
    have fewerNames := fewer.map (·.name)
    exact apart.sublist (fewerNames.map nameKey)
  | activated index inside => exact apart
  | written sheet address text found =>
    rw [names_written found]
    exact apart

theorem WellNamed.of_edited (wellNamed : wb.WellNamed) (edited : wb.Edited after) :
    after.WellNamed := by
  refine ⟨?_, apart_of_edited wellNamed.apart edited⟩
  cases edited with
  | appended sheet fits free =>
    rw [names_append, List.forall_mem_append, List.forall_mem_singleton]
    exact ⟨wellNamed.fit, fits⟩
  | removed index inside =>
    have fewer : (wb.sheets.eraseIdx index).Sublist wb.sheets := List.eraseIdx_sublist _ _
    have fewerNames := fewer.map (·.name)
    exact fun name member => wellNamed.fit name (fewerNames.subset member)
  | activated index inside => exact wellNamed.fit
  | written sheet address text found =>
    rw [names_written found]
    exact wellNamed.fit

theorem WellNamed.pairwise (wellNamed : wb.WellNamed) :
    wb.names.Pairwise fun a b => sameName a b = false := nodup_nameKey_iff.1 wellNamed.apart

/-- Names that are one in lower case already differ in more than lower case, so they are no names in
ASCII. -/
theorem WellNamed.beyond_ascii (wellNamed : wb.WellNamed) {a b : String}
    (both : [a, b].Sublist wb.names) (same : foldedName a = foldedName b) :
    sameName a b = false ∧ ¬ (Text.Ascii a.toList ∧ Text.Ascii b.toList) := by
  have different := List.pairwise_iff_forall_sublist.mp wellNamed.pairwise both
  refine ⟨different, ?_⟩
  rintro ⟨asciiLeft, asciiRight⟩
  rw [sameName_of_ascii asciiLeft asciiRight same] at different
  cases different

theorem wellNamed_of_savable (fit : ∀ name ∈ wb.names, nameFault? name = none)
    (distinct : repeatedName? [] wb.names = none) : wb.WellNamed := by
  refine ⟨fit, ?_⟩
  have apart := (repeatedName?_eq_none_iff.mp distinct).1
  have folded : wb.names.map foldedName =
      (wb.names.map nameKey).map (String.ofList ∘ Text.lowercase) := by
    rw [List.map_map]
    exact List.map_congr_left fun name _ => foldedName_eq name
  rw [folded] at apart
  exact List.Nodup.of_map _ apart

/-- Edits keep the names of the sheets fit for a file and different up to the case of ASCII letters.
A file is then refused for a name just where two names differ in the case of other letters alone. -/
theorem refusedForName_after_edits (wb : Workbook)
    (fit : ∀ name ∈ wb.names, nameFault? name = none)
    (distinct : repeatedName? [] wb.names = none) (edits : List WorkbookEdit) :
    (∀ name ∈ (wb.performAll edits).names, nameFault? name = none) ∧
      (wb.performAll edits).names.Pairwise (fun a b => sameName a b = false) ∧
      ((wb.performAll edits).RefusedForName ↔
        (∀ sheet ∈ (wb.performAll edits).sheets, ∃ saved, sheet.save = .ok saved) ∧
          ∃ a b, [a, b].Sublist (wb.performAll edits).names ∧ foldedName a = foldedName b ∧
            sameName a b = false ∧ ¬ (Text.Ascii a.toList ∧ Text.Ascii b.toList)) := by
  have wellNamed : (wb.performAll edits).WellNamed :=
    performAll_of_edited (fun _ _ => WellNamed.of_edited) (wellNamed_of_savable fit distinct) edits
  refine ⟨wellNamed.fit, wellNamed.pairwise, ?_⟩
  rw [refusedForName_iff wellNamed.fit]
  refine and_congr_right fun _ => ?_
  constructor
  · rintro ⟨a, b, both, same⟩
    exact ⟨a, b, both, same, wellNamed.beyond_ascii both same⟩
  · rintro ⟨a, b, both, same, -⟩
    exact ⟨a, b, both, same⟩

theorem refusedForName_after_edits_of_accents :
    let wb : Workbook := { sheets := [{ name := "Cover" }] }
    let edits : List WorkbookEdit := [.clone 0 "É", .clone 0 "COVER", .clone 0 "é", .remove 0]
    (∀ name ∈ wb.names, nameFault? name = none) ∧ repeatedName? [] wb.names = none ∧
      (wb.performAll edits).RefusedForName := by
  intro wb edits
  have fit : ∀ name ∈ wb.names, nameFault? name = none := by decide
  have distinct : repeatedName? [] wb.names = none := by decide
  obtain ⟨-, -, refused⟩ := refusedForName_after_edits wb fit distinct edits
  have left : (wb.performAll edits).sheets = [{ name := "É" }, { name := "é" }] := by decide
  refine ⟨fit, distinct, refused.mpr ⟨?_, "É", "é", ?_, ?_, ?_, ?_⟩⟩
  · rw [left, List.forall_mem_cons, List.forall_mem_singleton]
    exact ⟨⟨_, rfl⟩, ⟨_, rfl⟩⟩
  · decide
  · decide
  · decide
  · decide

/-- Both sheets are let in, and then no file can hold them. -/
theorem save_of_accents :
    let wb : Workbook := { sheets := [{ name := "É" }] }
    (∀ name ∈ wb.names, nameFault? name = none) ∧ repeatedName? [] wb.names = none ∧
      (wb.edit (.add { name := "é" })).isOk ∧
      (wb.performAll [.add { name := "é" }]).save = .error (.savedNameUsed "é") := by
  refine ⟨by decide, by decide, by decide, ?_⟩
  rfl

end Workbook

end ReportSheets
