import ReportSheets.Proofs.Workbook.InPlace
import ReportSheets.Report.Interpret

namespace ReportSheets.Context

variable {template : String → Except Error Workbook} {ctx after : Context} {e : Error}

theorem change_failed {edit : Editing Unit} {atOnce : Workbook → Except Error (Unit × Workbook)}
    (does : ∀ wb : Workbook, edit.run wb = wb.settle (atOnce wb))
    (failed : ctx.change edit = (.error e, after)) : after = ctx := by
  obtain ⟨reader, formFile, mode, workbook, registries⟩ := ctx
  cases workbook with
  | none => cases failed; rfl
  | some wb =>
    simp only [change, Prod.mk.injEq] at failed
    obtain ⟨refused, rfl⟩ := failed
    have kept : (edit.run wb).2 = wb := by
      rw [does] at refused ⊢
      exact Workbook.settle_error (Prod.ext refused rfl)
    rw [kept]

theorem loadTemplate_failed {loaded : Except Error Workbook}
    (failed : ctx.loadTemplate loaded = (.error e, after)) : after = ctx := by
  cases loaded with
  | error e => cases failed; rfl
  | ok wb => cases failed

theorem execute_failed {command : Command}
    (failed : ctx.execute template command = (.error e, after)) : after = ctx := by
  cases command with
  | setForm formFile mode => cases failed
  | onSheets command =>
    cases command with
    | load name => exact loadTemplate_failed failed
    | activate sheet => exact change_failed (fun _ => Editing.run_activateSheet sheet) failed
    | clone source newName =>
      exact change_failed (fun _ => Editing.run_cloneSheet source newName) failed
    | delete sheet => exact change_failed (fun _ => Editing.run_deleteSheet sheet) failed

theorem executeLine_failed {line : String}
    (failed : ctx.executeLine template line = (.error e, after)) : after = ctx := by
  unfold executeLine at failed
  cases parsed : Command.parse line with
  | error e =>
    rw [parsed] at failed
    cases failed
    rfl
  | ok command =>
    rw [parsed] at failed
    exact execute_failed failed

def tryLines (template : String → Except Error Workbook) (ctx : Context) (lines : List String) :
    Context :=
  lines.foldl (fun ctx line => (ctx.executeLine template line).2) ctx

def accepted (template : String → Except Error Workbook) (ctx : Context) :
    List String → List String
  | [] => []
  | line :: more =>
    match ctx.executeLine template line with
    | (.error _, after) => after.accepted template more
    | (.ok (), after) => line :: after.accepted template more

theorem executeLines_accepted (lines : List String) :
    ctx.executeLines template (ctx.accepted template lines) =
      (.ok (), ctx.tryLines template lines) := by
  induction lines generalizing ctx with
  | nil => rfl
  | cons line more ih =>
    rw [tryLines, List.foldl_cons, accepted]
    cases step : ctx.executeLine template line with
    | mk answer after =>
      cases answer with
      | error e =>
        have same := executeLine_failed step
        rw [same]
        exact ih
      | ok done =>
        simp only [executeLines, step]
        exact ih

/-- A line that fails leaves the whole context as it was and an edit that fails the whole workbook,
so the lines that fail may as well be left out. -/
theorem failure_leaves_no_trace (template : String → Except Error Workbook) :
    (∀ (ctx after : Context) (line : String) (e : Error),
      ctx.executeLine template line = (.error e, after) → after = ctx) ∧
    (∀ (wb after : Workbook) (edit : WorkbookEdit) (e : Error),
      wb.perform edit = (.error e, after) → after = wb) ∧
    ∀ (ctx : Context) (lines : List String),
      ctx.executeLines template (ctx.accepted template lines) =
        (.ok (), ctx.tryLines template lines) := by
  refine ⟨?_, ?_, ?_⟩
  · intro ctx after line e failed
    exact executeLine_failed failed
  · intro wb after edit e failed
    rw [wb.perform_eq_settle] at failed
    exact Workbook.settle_error failed
  · intro ctx lines
    exact executeLines_accepted lines

theorem failure_leaves_no_trace_of_taken_name :
    ({ reader := { lines := [] }, workbook := some { sheets := [{ name := "A" }] } } :
        Context).executeLine (fun name => .error (.templateMissing name))
          "VrComout=XSSC NO=0 CHANGE=a" =
      (.error (.sheetExists "a"),
        { reader := { lines := [] }, workbook := some { sheets := [{ name := "A" }] } }) ∧
    ({ sheets := [{ name := "A" }] } : Workbook).perform (.clone 0 "a") =
      (.error (.sheetExists "a"), { sheets := [{ name := "A" }] }) := by
  have trace := failure_leaves_no_trace fun name => .error (.templateMissing name)
  constructor
  · exact Prod.ext rfl (trace.1 _ _ "VrComout=XSSC NO=0 CHANGE=a" (.sheetExists "a") rfl)
  · exact Prod.ext rfl (trace.2.1 _ _ (.clone 0 "a") (.sheetExists "a") rfl)

end ReportSheets.Context
