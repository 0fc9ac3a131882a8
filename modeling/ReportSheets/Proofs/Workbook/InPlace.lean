import ReportSheets.Workbook.Edit

namespace ReportSheets

variable {α β : Type} {wb after : Workbook} {e : Error}

namespace Workbook

/-- What the outcome of an edit at once leaves behind: no new workbook, the old one. -/
def settle (wb : Workbook) : Except Error (α × Workbook) → Except Error α × Workbook
  | .ok (answer, after) => (.ok answer, after)
  | .error e => (.error e, wb)

theorem settle_error {outcome : Except Error (α × Workbook)}
    (failed : wb.settle outcome = (.error e, after)) : after = wb := by
  cases outcome with
  | error e => cases failed; rfl
  | ok result => cases failed

def activateSheet (wb : Workbook) (ref : SheetRef) : Except Error (Unit × Workbook) := do
  let index ← wb.resolve ref
  let wb ← wb.activate index
  return ((), wb)

def cloneSheet (wb : Workbook) (source : SheetRef) (newName : String) :
    Except Error (Unit × Workbook) := do
  let index ← wb.resolve source
  let (copy, wb) ← wb.clone index newName
  let wb ← wb.activate copy
  return ((), wb)

def deleteSheet (wb : Workbook) (ref : SheetRef) : Except Error (Unit × Workbook) := do
  let index ← wb.resolve ref
  let (_, wb) ← wb.remove index
  return ((), wb)

theorem index_lt_of_add {sheet : Sheet} {index : Nat} (added : wb.add sheet = .ok (index, after)) :
    index < after.size := by
  unfold add at added
  split at added
  · cases added
  · split at added
    · cases added
    · simp only [Except.ok.injEq, Prod.mk.injEq] at added
      obtain ⟨rfl, rfl⟩ := added
      simp [size]

theorem index_lt_of_clone {index copy : Nat} {newName : String}
    (cloned : wb.clone index newName = .ok (copy, after)) : copy < after.size := by
  unfold clone at cloned
  split at cloned
  · exact index_lt_of_add cloned
  · cases cloned

theorem activate_of_clone {index copy : Nat} {newName : String}
    (cloned : wb.clone index newName = .ok (copy, after)) :
    after.activate copy = .ok { after with active := copy } :=
  if_pos (index_lt_of_clone cloned)

end Workbook

namespace Editing

theorem run_pure (answer : α) : (pure answer : Editing α).run wb = (.ok answer, wb) := rfl

theorem run_get : (get : Editing Workbook).run wb = (.ok wb, wb) := rfl

theorem run_modify (f : Workbook → Workbook) :
    (modify f : Editing PUnit).run wb = (.ok ⟨⟩, f wb) := rfl

theorem run_bind (edit : Editing α) (next : α → Editing β) :
    (edit >>= next).run wb =
      match edit.run wb with
      | (.ok answer, after) => (next answer).run after
      | (.error e, after) => (.error e, after) := by
  unfold run
  rw [ExceptT.run_bind, StateT.run_bind]
  generalize StateT.run (ExceptT.run edit) wb = result
  rcases result with ⟨answer | answer, after⟩ <;> rfl

theorem run_bind_ok {edit : Editing α} {next : α → Editing β} {answer : α}
    (done : edit.run wb = (.ok answer, after)) :
    (edit >>= next).run wb = (next answer).run after := by
  rw [run_bind, done]

theorem run_bind_error {edit : Editing α} {next : α → Editing β}
    (failed : edit.run wb = (.error e, after)) :
    (edit >>= next).run wb = (.error e, after) := by
  rw [run_bind, failed]

/-- What comes after a first part may fail only where that leaves the workbook as it was before the
first part. -/
theorem run_bind_settle {edit : Editing α} {next : α → Editing β}
    {outcome : Except Error (α × Workbook)} {rest : α × Workbook → Except Error (β × Workbook)}
    (first : edit.run wb = wb.settle outcome)
    (later : ∀ answer after, outcome = .ok (answer, after) →
      (next answer).run after = wb.settle (rest (answer, after))) :
    (edit >>= next).run wb = wb.settle (outcome >>= rest) := by
  cases outcome with
  | error e => exact run_bind_error first
  | ok result =>
    obtain ⟨answer, after⟩ := result
    rw [run_bind_ok first, later answer after rfl]
    rfl

theorem run_resolve {ref : SheetRef} {outcome : Except Error Nat}
    (resolved : wb.resolve ref = outcome) : (resolve ref).run wb = (outcome, wb) := by
  rw [resolve, run_bind_ok run_get, resolved]
  cases outcome <;> rfl

theorem run_sheetAt {index : Nat} {sheet : Sheet} (found : wb.sheets[index]? = some sheet) :
    (sheetAt index).run wb = (.ok sheet, wb) := by
  rw [sheetAt, run_bind_ok run_get, found]
  rfl

theorem run_sheetAt_none {index : Nat} (missing : wb.sheets[index]? = none) :
    (sheetAt index).run wb = (.error (.sheetIndex index wb.size), wb) := by
  rw [sheetAt, run_bind_ok run_get, missing]
  rfl

theorem run_add (sheet : Sheet) : (add sheet).run wb = wb.settle (wb.add sheet) := by
  unfold add Workbook.add
  cases nameFault? sheet.name with
  | some fault => rfl
  | none =>
    simp only [run_bind_ok run_get]
    by_cases known : (wb.indexOf? sheet.name).isSome = true
    · rw [if_pos known, if_pos known]
      rfl
    · rw [if_neg known, if_neg known, run_bind_ok (run_modify _), run_bind_ok run_get, run_pure]
      simp only [Workbook.settle, Workbook.size, List.length_append, List.length_singleton,
        Nat.add_sub_cancel]

theorem run_activate (index : Nat) :
    (activate index).run wb = wb.settle ((wb.activate index).map fun after => ((), after)) := by
  unfold activate Workbook.activate
  by_cases inside : index < wb.size
  · rw [if_pos inside, run_bind_ok (run_sheetAt (List.getElem?_eq_getElem inside))]
    rfl
  · have missing := List.getElem?_eq_none (Nat.le_of_not_lt inside)
    rw [if_neg inside, run_bind_error (run_sheetAt_none missing)]
    rfl

theorem run_clone (index : Nat) (newName : String) :
    (clone index newName).run wb = wb.settle (wb.clone index newName) := by
  unfold clone Workbook.clone
  cases found : wb.sheets[index]? with
  | none => exact run_bind_error (run_sheetAt_none found)
  | some sheet => rw [run_bind_ok (run_sheetAt found), run_add]

theorem run_remove (index : Nat) : (remove index).run wb = wb.settle (wb.remove index) := by
  unfold remove Workbook.remove
  cases found : wb.sheets[index]? with
  | none => exact run_bind_error (run_sheetAt_none found)
  | some sheet =>
    rw [run_bind_ok (run_sheetAt found)]
    rfl

theorem run_setText (address : CellAddress) (text : String) :
    (setText address text).run wb =
      wb.settle ((wb.setText address text).map fun after => ((), after)) := by
  unfold setText Workbook.setText
  rw [run_bind_ok run_get]
  cases wb.activeSheet? <;> rfl

theorem run_activateSheet (ref : SheetRef) :
    (activateSheet ref).run wb = wb.settle (wb.activateSheet ref) := by
  unfold activateSheet Workbook.activateSheet
  cases resolved : wb.resolve ref with
  | error e => exact run_bind_error (run_resolve resolved)
  | ok index =>
    rw [run_bind_ok (run_resolve resolved), run_activate]
    show wb.settle _ = wb.settle (wb.activate index >>= _)
    cases wb.activate index <;> rfl

theorem run_cloneSheet (source : SheetRef) (newName : String) :
    (cloneSheet source newName).run wb = wb.settle (wb.cloneSheet source newName) := by
  unfold cloneSheet Workbook.cloneSheet
  cases resolved : wb.resolve source with
  | error e => exact run_bind_error (run_resolve resolved)
  | ok index =>
    rw [run_bind_ok (run_resolve resolved)]
    apply run_bind_settle (run_clone index newName)
    intro copy after cloned
    -- nothing can fail once the copy is there
    rw [run_activate, Workbook.activate_of_clone cloned]
    simp only [Workbook.activate_of_clone cloned, bind, Except.bind]
    rfl

theorem run_deleteSheet (ref : SheetRef) :
    (deleteSheet ref).run wb = wb.settle (wb.deleteSheet ref) := by
  unfold deleteSheet Workbook.deleteSheet
  cases resolved : wb.resolve ref with
  | error e => exact run_bind_error (run_resolve resolved)
  | ok index =>
    rw [run_bind_ok (run_resolve resolved)]
    exact run_bind_settle (run_remove index) fun _ _ _ => rfl

theorem run_answer {edit : Editing α} {outcome : Except Error (α × Workbook)}
    (does : edit.run wb = wb.settle outcome) (f : α → β) :
    (do return f (← edit) : Editing β).run wb =
      wb.settle (outcome.map fun (answer, after) => (f answer, after)) := by
  cases outcome with
  | error e => exact run_bind_error does
  | ok result => exact run_bind_ok does

end Editing

theorem Workbook.perform_eq_settle (wb : Workbook) (edit : WorkbookEdit) :
    wb.perform edit = wb.settle (wb.edit edit) := by
  cases edit with
  | add sheet => exact Editing.run_answer (Editing.run_add sheet) EditAnswer.index
  | clone index newName => exact Editing.run_answer (Editing.run_clone index newName) EditAnswer.index
  | remove index => exact Editing.run_answer (Editing.run_remove index) EditAnswer.removed
  | activate index =>
    refine (Editing.run_answer (Editing.run_activate index) fun _ => EditAnswer.done).trans ?_
    rw [Workbook.edit]
    cases wb.activate index <;> rfl
  | setText address text =>
    refine (Editing.run_answer (Editing.run_setText address text) fun _ => EditAnswer.done).trans ?_
    rw [Workbook.edit]
    cases wb.setText address text <;> rfl

end ReportSheets
