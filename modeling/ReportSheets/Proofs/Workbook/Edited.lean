import ReportSheets.Proofs.Outcome
import ReportSheets.Proofs.Workbook.InPlace

namespace ReportSheets.Workbook

variable {wb after : Workbook} {sheet : Sheet} {index : Nat}

inductive Edited (wb : Workbook) : Workbook → Prop
  | appended (sheet : Sheet) (fits : nameFault? sheet.name = none)
      (free : wb.indexOf? sheet.name = none) :
      Edited wb { wb with sheets := wb.sheets ++ [sheet] }
  | removed (index : Nat) (inside : index < wb.size) :
      Edited wb { sheets := wb.sheets.eraseIdx index
                  active := activeAfterRemoval wb.active index (wb.size - 1) }
  | activated (index : Nat) (inside : index < wb.size) : Edited wb { wb with active := index }
  | written (sheet : Sheet) (address : CellAddress) (text : String)
      (found : wb.activeSheet? = some sheet) :
      Edited wb
        { wb with sheets := wb.sheets.set wb.active (sheet.setCell address (.text text)) }

theorem add_eq_ok (added : wb.add sheet = .ok (index, after)) :
    nameFault? sheet.name = none ∧ wb.indexOf? sheet.name = none ∧ index = wb.size ∧
      after = { wb with sheets := wb.sheets ++ [sheet] } := by
  unfold add at added
  split at added
  · cases added
  · rename_i fits
    split at added
    · cases added
    · rename_i free
      cases added
      exact ⟨fits, Option.not_isSome_iff_eq_none.mp free, rfl, rfl⟩

theorem clone_eq_ok {newName : String} {copy : Nat}
    (cloned : wb.clone index newName = .ok (copy, after)) :
    ∃ sheet, wb.sheets[index]? = some sheet ∧
      wb.add { sheet with name := newName } = .ok (copy, after) := by
  unfold clone at cloned
  split at cloned
  · rename_i sheet found
    exact ⟨sheet, found, cloned⟩
  · cases cloned

theorem remove_of_getElem? (found : wb.sheets[index]? = some sheet) :
    wb.remove index = .ok (sheet,
      { sheets := wb.sheets.eraseIdx index
        active := activeAfterRemoval wb.active index (wb.size - 1) }) := by
  have left : (wb.sheets.eraseIdx index).length = wb.size - 1 :=
    List.length_eraseIdx_of_lt (List.getElem?_eq_some_iff.mp found).1
  simp only [remove, found, left]

theorem remove_eq_ok {removed : Sheet} (done : wb.remove index = .ok (removed, after)) :
    wb.sheets[index]? = some removed ∧
      after = { sheets := wb.sheets.eraseIdx index
                active := activeAfterRemoval wb.active index (wb.size - 1) } := by
  cases found : wb.sheets[index]? with
  | none =>
    simp only [remove, found] at done
    cases done
  | some sheet =>
    rw [remove_of_getElem? found] at done
    cases done
    exact ⟨rfl, rfl⟩

theorem activate_eq_ok (done : wb.activate index = .ok after) :
    index < wb.size ∧ after = { wb with active := index } := by
  unfold activate at done
  split at done
  · rename_i inside
    cases done
    exact ⟨inside, rfl⟩
  · cases done

theorem setText_eq_ok {address : CellAddress} {text : String}
    (done : wb.setText address text = .ok after) :
    ∃ sheet, wb.activeSheet? = some sheet ∧
      after =
        { wb with sheets := wb.sheets.set wb.active (sheet.setCell address (.text text)) } := by
  unfold setText at done
  split at done
  · rename_i sheet found
    cases done
    exact ⟨sheet, found, rfl⟩
  · cases done

theorem edited_of_add (added : wb.add sheet = .ok (index, after)) : wb.Edited after := by
  obtain ⟨fits, free, -, rfl⟩ := add_eq_ok added
  exact .appended sheet fits free

theorem edited_of_clone {newName : String} {copy : Nat}
    (cloned : wb.clone index newName = .ok (copy, after)) : wb.Edited after := by
  obtain ⟨sheet, -, added⟩ := clone_eq_ok cloned
  exact edited_of_add added

theorem edited_of_remove {removed : Sheet} (done : wb.remove index = .ok (removed, after)) :
    wb.Edited after := by
  obtain ⟨found, rfl⟩ := remove_eq_ok done
  exact .removed index (List.getElem?_eq_some_iff.mp found).1

theorem edited_of_activate (done : wb.activate index = .ok after) : wb.Edited after := by
  obtain ⟨inside, rfl⟩ := activate_eq_ok done
  exact .activated index inside

theorem edited_of_setText {address : CellAddress} {text : String}
    (done : wb.setText address text = .ok after) : wb.Edited after := by
  obtain ⟨sheet, found, rfl⟩ := setText_eq_ok done
  exact .written sheet address text found

theorem edited_of_edit {e : WorkbookEdit} {answer : EditAnswer}
    (done : wb.edit e = .ok (answer, after)) : wb.Edited after := by
  cases e with
  | add sheet =>
    obtain ⟨⟨index, next⟩, added, same⟩ := exists_of_map_ok done
    cases same
    exact edited_of_add added
  | clone index newName =>
    obtain ⟨⟨copy, next⟩, cloned, same⟩ := exists_of_map_ok done
    cases same
    exact edited_of_clone cloned
  | remove index =>
    obtain ⟨⟨removed, next⟩, taken, same⟩ := exists_of_map_ok done
    cases same
    exact edited_of_remove taken
  | activate index =>
    obtain ⟨next, activated, same⟩ := exists_of_map_ok done
    cases same
    exact edited_of_activate activated
  | setText address text =>
    obtain ⟨next, written, same⟩ := exists_of_map_ok done
    cases same
    exact edited_of_setText written

theorem perform_eq_or_edited (wb : Workbook) (e : WorkbookEdit) :
    (wb.perform e).2 = wb ∨ wb.Edited (wb.perform e).2 := by
  rw [perform_eq_settle]
  cases outcome : wb.edit e with
  | error fault => exact .inl rfl
  | ok result => exact .inr (edited_of_edit outcome)

theorem performAll_of_edited {P : Workbook → Prop}
    (kept : ∀ wb after : Workbook, P wb → wb.Edited after → P after) (start : P wb)
    (edits : List WorkbookEdit) : P (wb.performAll edits) := by
  induction edits generalizing wb with
  | nil => exact start
  | cons e more ih =>
    have stillSo : P (wb.perform e).2 := by
      rcases wb.perform_eq_or_edited e with refused | edited
      · rw [refused]
        exact start
      · exact kept _ _ start edited
    exact ih stillSo

/-- An active sheet is there unless no sheet is; then the first one to come will be active. -/
def ActiveKept (wb : Workbook) : Prop := wb.active < wb.size ∨ wb.size = 0 ∧ wb.active = 0

theorem activeAfterRemoval_kept {active index count : Nat} (activeInside : active ≤ count)
    (inside : index ≤ count) :
    activeAfterRemoval active index count < count ∨
      count = 0 ∧ activeAfterRemoval active index count = 0 := by
  unfold activeAfterRemoval
  split <;> omega

theorem ActiveKept.of_edited (kept : wb.ActiveKept) (edited : wb.Edited after) :
    after.ActiveKept := by
  cases edited with
  | appended sheet fits free =>
    simp only [ActiveKept, size, List.length_append, List.length_singleton] at kept ⊢
    omega
  | removed index inside =>
    have left : (wb.sheets.eraseIdx index).length = wb.size - 1 :=
      List.length_eraseIdx_of_lt inside
    have activeInside : wb.active ≤ wb.size - 1 := by
      unfold ActiveKept at kept
      omega
    have stillKept := activeAfterRemoval_kept activeInside (Nat.le_sub_one_of_lt inside)
    simpa only [ActiveKept, size, left] using stillKept
  | activated index inside => exact .inl inside
  | written sheet address text found =>
    simp only [ActiveKept, size, List.length_set] at kept ⊢
    exact kept

end ReportSheets.Workbook
