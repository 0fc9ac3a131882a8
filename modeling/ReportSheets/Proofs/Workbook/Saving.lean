import Mathlib.Tactic.ByContra
import ReportSheets.Proofs.Outcome
import ReportSheets.Workbook.Saved

namespace ReportSheets

variable {e : Error}

inductive Error.BlamesName : Error → Prop
  | unfit (name : String) (fault : SheetNameFault) : BlamesName (.savedName name fault)
  | repeated (name : String) : BlamesName (.savedNameUsed name)

namespace Layout

theorem checkColumns_error {columns : List ColumnWidth} (failed : checkColumns columns = .error e) :
    ¬ e.BlamesName := by
  induction columns with
  | nil => cases failed
  | cons column columns ih =>
    rw [checkColumns] at failed
    split at failed
    · cases failed
      nofun
    · split at failed
      · cases failed
        nofun
      · exact ih failed

theorem checkRows_error {rows : List (Nat × Binary64)} (failed : checkRows rows = .error e) :
    ¬ e.BlamesName := by
  unfold checkRows at failed
  split at failed
  · cases failed
    nofun
  · cases failed

theorem saveMerges_error {saved ranges : List MergedRange}
    (failed : saveMerges saved ranges = .error e) : ¬ e.BlamesName := by
  induction ranges generalizing saved with
  | nil => cases failed
  | cons range ranges ih =>
    rw [saveMerges] at failed
    split at failed
    · exact ih failed
    · split at failed
      · cases failed
        nofun
      · split at failed
        · cases failed
          nofun
        · split at failed
          · cases failed
            nofun
          · exact ih failed

theorem save_error {layout : Layout} (failed : layout.save = .error e) : ¬ e.BlamesName := by
  rcases of_bind_error failed with columns | ⟨_, -, failed⟩
  · exact checkColumns_error columns
  rcases of_bind_error failed with rows | ⟨_, -, failed⟩
  · exact checkRows_error rows
  rcases of_bind_error failed with merges | ⟨_, -, failed⟩
  · exact saveMerges_error merges
  · cases failed

end Layout

namespace SavedCell

theorem ofValue_error {value : CellValue} (failed : ofValue value = .error e) : ¬ e.BlamesName := by
  cases value with
  | text s =>
    rw [ofValue] at failed
    split at failed
    · cases failed
      nofun
    · split at failed <;> cases failed
  | number n => cases failed
  | bool b => cases failed
  | formula f => cases failed

end SavedCell

namespace Sheet

variable {sheet : Sheet} {saved : SavedSheet}

theorem saveCells_error {cells : List (CellAddress × CellValue)}
    (failed : saveCells cells = .error e) : ¬ e.BlamesName := by
  induction cells with
  | nil => cases failed
  | cons cell cells ih =>
    rw [saveCells] at failed
    split at failed
    · cases failed
      nofun
    · rcases of_bind_error failed with first | ⟨_, -, failed⟩
      · exact SavedCell.ofValue_error first
      rcases of_bind_error failed with later | ⟨_, -, failed⟩
      · exact ih later
      · cases failed

theorem save_error (fits : nameFault? sheet.name = none) (failed : sheet.save = .error e) :
    ¬ e.BlamesName := by
  simp only [save, fits] at failed
  rcases of_bind_error failed with layout | ⟨_, -, failed⟩
  · exact Layout.save_error layout
  rcases of_bind_error failed with cells | ⟨_, -, failed⟩
  · exact saveCells_error cells
  · cases failed

theorem name_of_save (done : sheet.save = .ok saved) : saved.name = sheet.name := by
  unfold save at done
  split at done
  · cases done
  · obtain ⟨layout, -, done⟩ := of_bind_ok done
    obtain ⟨cells, -, done⟩ := of_bind_ok done
    cases done
    rfl

end Sheet

variable {used names : List String}

theorem repeatedName?_eq_none_iff :
    repeatedName? used names = none ↔
      (names.map foldedName).Nodup ∧ ∀ name ∈ names, foldedName name ∉ used := by
  induction names generalizing used with
  | nil => simp [repeatedName?]
  | cons name names ih =>
    rw [repeatedName?, List.map_cons, List.nodup_cons, List.forall_mem_cons, List.mem_map]
    by_cases taken : foldedName name ∈ used
    · simp [taken]
    · rw [if_neg taken, ih]
      simp only [List.mem_cons, not_or]
      constructor
      · rintro ⟨apart, later⟩
        refine ⟨⟨?_, apart⟩, taken, fun other member => (later other member).2⟩
        rintro ⟨other, member, same⟩
        exact (later other member).1 same
      · rintro ⟨⟨first, apart⟩, -, later⟩
        refine ⟨apart, fun other member => ⟨?_, later other member⟩⟩
        intro same
        exact first ⟨other, member, same⟩

namespace Workbook

variable {wb : Workbook} {book : SavedBook}

def Clash (wb : Workbook) : Prop := ∃ a b, [a, b].Sublist wb.names ∧ foldedName a = foldedName b

theorem not_clash_iff : ¬ wb.Clash ↔ repeatedName? [] wb.names = none := by
  have distinct : repeatedName? [] wb.names = none ↔ (wb.names.map foldedName).Nodup := by
    rw [repeatedName?_eq_none_iff]
    simp
  rw [distinct, List.Nodup, List.pairwise_map, List.pairwise_iff_forall_sublist]
  constructor
  · intro none a b both same
    exact none ⟨a, b, both, same⟩
  · rintro apart ⟨a, b, both, same⟩
    exact apart both same

theorem save_of_sheets {saved : List SavedSheet} (each : wb.sheets.mapM Sheet.save = .ok saved) :
    wb.save =
      match repeatedName? [] wb.names with
      | some name => .error (.savedNameUsed name)
      | none =>
        if saved.isEmpty then .ok emptySaved
        else .ok {
          sheets := saved
          activeTab := if wb.active < saved.length then wb.active else 0 } := by
  unfold save
  rw [each]
  show (match repeatedName? [] wb.names with | some name => _ | none => _) = _
  cases repeatedName? [] wb.names with
  | some name => rfl
  | none =>
    simp only
    split <;> rfl

theorem save_of_sheet_error (failed : wb.sheets.mapM Sheet.save = .error e) :
    wb.save = .error e := by
  unfold save
  rw [failed]
  rfl

theorem save_nil (active : Nat) : save { sheets := [], active } = .ok emptySaved := rfl

/-- A workbook with sheets is saved as those sheets, each as it is saved itself, unless two of them
have the same name in lower case; an active sheet that is not there gives way to the first. -/
theorem save_eq_ok_iff (some : wb.sheets ≠ []) :
    wb.save = .ok book ↔
      List.Forall₂ (fun sheet saved => sheet.save = .ok saved) wb.sheets book.sheets ∧
        ¬ wb.Clash ∧ book.activeTab = if wb.active < wb.size then wb.active else 0 := by
  rw [not_clash_iff]
  cases each : wb.sheets.mapM Sheet.save with
  | error e =>
    rw [save_of_sheet_error each]
    refine iff_of_false (by nofun) ?_
    rintro ⟨related, -⟩
    rw [mapM_eq_ok_iff.mpr related] at each
    cases each
  | ok saved =>
    have related := mapM_eq_ok_iff.mp each
    have count : saved.length = wb.size := related.length_eq.symm
    have filled : saved.isEmpty = false := by
      rw [List.isEmpty_eq_false_iff]
      rintro rfl
      exact some (List.eq_nil_of_length_eq_zero count.symm)
    have same : ∀ {others},
        List.Forall₂ (fun sheet saved => sheet.save = .ok saved) wb.sheets others ↔
          others = saved := by
      intro others
      rw [← mapM_eq_ok_iff, each, Except.ok.injEq, eq_comm]
    rw [save_of_sheets each, same, ← count, filled]
    cases repeatedName? [] wb.names with
    | some name => simp
    | none =>
      obtain ⟨sheets, activeTab⟩ := book
      simp only [Bool.false_eq_true, if_false, Except.ok.injEq, SavedBook.mk.injEq, true_and]
      exact and_congr eq_comm eq_comm

theorem save_eq_ok (done : wb.save = .ok book) (inRange : wb.active < wb.size) :
    List.Forall₂ (fun sheet saved => sheet.save = .ok saved) wb.sheets book.sheets ∧
      book.activeTab = wb.active := by
  have some : wb.sheets ≠ [] := List.ne_nil_of_length_pos (Nat.zero_lt_of_lt inRange)
  obtain ⟨related, -, active⟩ := (save_eq_ok_iff some).mp done
  exact ⟨related, active.trans (if_pos inRange)⟩

theorem names_of_save (done : wb.save = .ok book) (inRange : wb.active < wb.size) :
    book.sheets.map (·.name) = wb.names := by
  have same := (save_eq_ok done inRange).1.imp fun _ _ => Sheet.name_of_save
  rw [names, ← List.forall₂_eq_eq_eq, List.forall₂_map_left_iff, List.forall₂_map_right_iff]
  exact same.flip

def RefusedForName (wb : Workbook) : Prop := ∃ e, wb.save = .error e ∧ e.BlamesName

theorem refusedForName_iff (fit : ∀ name ∈ wb.names, nameFault? name = none) :
    wb.RefusedForName ↔ (∀ sheet ∈ wb.sheets, ∃ saved, sheet.save = .ok saved) ∧ wb.Clash := by
  cases each : wb.sheets.mapM Sheet.save with
  | error e =>
    obtain ⟨sheet, member, failed⟩ := of_mapM_error each
    constructor
    · rintro ⟨e', refused, blames⟩
      rw [save_of_sheet_error each] at refused
      cases refused
      exact absurd blames (Sheet.save_error (fit _ (List.mem_map_of_mem member)) failed)
    · rintro ⟨saves, -⟩
      obtain ⟨saved, done⟩ := saves sheet member
      rw [failed] at done
      cases done
  | ok saved =>
    have saves : ∀ sheet ∈ wb.sheets, ∃ saved, sheet.save = .ok saved := by
      intro sheet member
      obtain ⟨out, -, done⟩ := exists_of_mem_right (mapM_eq_ok_iff.mp each).flip member
      exact ⟨out, done⟩
    rw [RefusedForName, save_of_sheets each]
    cases repeated : repeatedName? [] wb.names with
    | none =>
      have distinct : ¬ wb.Clash := not_clash_iff.2 repeated
      constructor
      · rintro ⟨e, refused, -⟩
        simp only at refused
        split at refused <;> cases refused
      · rintro ⟨-, clash⟩
        exact absurd clash distinct
    | some name =>
      have clash : wb.Clash := by
        by_contra distinct
        rw [not_clash_iff.1 distinct] at repeated
        cases repeated
      exact ⟨fun _ => ⟨saves, clash⟩, fun _ => ⟨_, rfl, .repeated name⟩⟩

end Workbook

end ReportSheets
