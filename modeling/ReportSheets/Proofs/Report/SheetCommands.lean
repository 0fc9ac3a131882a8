import ReportSheets.Proofs.Report.Commands
import ReportSheets.Proofs.Report.Failure
import ReportSheets.Proofs.Workbook.Edited

namespace ReportSheets

namespace Workbook

variable {wb after : Workbook} {ref : SheetRef} {index : Nat} {e : Error}

theorem lt_of_resolve (resolved : wb.resolve ref = .ok index) : index < wb.size := by
  cases ref with
  | name name =>
    cases found : wb.indexOf? name with
    | none =>
      simp only [resolve, found] at resolved
      cases resolved
    | some first =>
      simp only [resolve, found] at resolved
      cases resolved
      exact (List.findIdx?_eq_some_iff_findIdx_eq.mp found).1
  | number n =>
    by_cases inside : 0 ≤ n ∧ n < wb.size
    · simp only [resolve, if_pos inside] at resolved
      cases resolved
      omega
    · simp only [resolve, if_neg inside] at resolved
      cases resolved

theorem activateSheet_of_resolve (resolved : wb.resolve ref = .ok index) :
    wb.activateSheet ref = .ok ((), { wb with active := index }) := by
  have activated : wb.activate index = .ok { wb with active := index } :=
    if_pos (lt_of_resolve resolved)
  unfold activateSheet
  rw [resolved]
  show (wb.activate index).bind _ = _
  rw [activated]
  rfl

theorem deleteSheet_of_resolve (resolved : wb.resolve ref = .ok index) :
    wb.deleteSheet ref = .ok ((),
      { sheets := wb.sheets.eraseIdx index
        active := activeAfterRemoval wb.active index (wb.size - 1) }) := by
  have found := List.getElem?_eq_getElem (lt_of_resolve resolved)
  unfold deleteSheet
  rw [resolved]
  show (wb.remove index).bind _ = _
  rw [remove_of_getElem? found]
  rfl

theorem activateSheet_of_resolve_error (missing : wb.resolve ref = .error e) :
    wb.activateSheet ref = .error e := by
  unfold activateSheet
  rw [missing]
  rfl

theorem deleteSheet_of_resolve_error (missing : wb.resolve ref = .error e) :
    wb.deleteSheet ref = .error e := by
  unfold deleteSheet
  rw [missing]
  rfl

theorem cloneSheet_eq_ok {source : SheetRef} {newName : String}
    (done : wb.cloneSheet source newName = .ok ((), after)) :
    ∃ index sheet, wb.resolve source = .ok index ∧ wb.sheets[index]? = some sheet ∧
      after = { sheets := wb.sheets ++ [{ sheet with name := newName }], active := wb.size } := by
  obtain ⟨index, resolved, done⟩ := of_bind_ok done
  obtain ⟨⟨copy, added⟩, cloned, done⟩ := of_bind_ok done
  obtain ⟨sheet, found, appended⟩ := clone_eq_ok cloned
  obtain ⟨-, -, rfl, rfl⟩ := add_eq_ok appended
  simp only [activate_of_clone cloned] at done
  cases done
  exact ⟨index, sheet, resolved, found, rfl⟩

def obey (wb : Workbook) : Command → Except Error (Unit × Workbook)
  | .onSheets (.activate sheet) => wb.activateSheet sheet
  | .onSheets (.clone source newName) => wb.cloneSheet source newName
  | .onSheets (.delete sheet) => wb.deleteSheet sheet
  | .onSheets (.load _) | .setForm .. => .ok ((), wb)

end Workbook

namespace Context

variable {template : String → Except Error Workbook} {ctx : Context} {wb : Workbook}
  {line : String} {command : Command}

theorem change_settle {edit : Editing Unit} {outcome : Except Error (Unit × Workbook)}
    (loaded : ctx.workbook = some wb) (does : edit.run wb = wb.settle outcome) :
    ctx.change edit =
      ((wb.settle outcome).1, { ctx with workbook := some (wb.settle outcome).2 }) := by
  simp only [change, loaded, does]

theorem workbook_execute (loaded : ctx.workbook = some wb)
    (loads : ∀ name, command ≠ .onSheets (.load name)) :
    (ctx.execute template command).2.workbook = some (wb.settle (wb.obey command)).2 := by
  match command with
  | .setForm _ _ => exact loaded
  | .onSheets (.load name) => exact absurd rfl (loads name)
  | .onSheets (.activate sheet) =>
    rw [execute, change_settle loaded (Editing.run_activateSheet sheet), Workbook.obey]
  | .onSheets (.clone source newName) =>
    rw [execute, change_settle loaded (Editing.run_cloneSheet source newName), Workbook.obey]
  | .onSheets (.delete sheet) =>
    rw [execute, change_settle loaded (Editing.run_deleteSheet sheet), Workbook.obey]

theorem executeLine_of_parse (parsed : Command.parse line = .ok command) :
    ctx.executeLine template line = ctx.execute template command := by
  rw [executeLine, parsed]

end Context

end ReportSheets
