import ReportSheets.Report.Interpret

namespace ReportSheets.Context

variable {template : String → Except Error Workbook} {ctx after : Context}

def reading (ctx : Context) (r : Reader) : Context := { ctx with reader := r }

@[simp]
theorem reading_reader (ctx : Context) (r : Reader) : (ctx.reading r).reader = r := rfl

@[simp]
theorem reading_workbook (ctx : Context) (r : Reader) : (ctx.reading r).workbook = ctx.workbook := rfl

/-- What `f` changes in a context is nothing that commands work on. -/
structure Aside (f : Context → Context) : Prop where
  workbook : ∀ ctx, (f ctx).workbook = ctx.workbook
  withWorkbook : ∀ ctx wb, f { ctx with workbook := wb } = { f ctx with workbook := wb }
  withForm : ∀ ctx formFile mode, f { ctx with formFile, mode } = { f ctx with formFile, mode }

namespace Aside

variable {f : Context → Context} (aside : Aside f)

include aside

theorem change (ctx : Context) (edit : Editing Unit) :
    (f ctx).change edit = ((ctx.change edit).1, f (ctx.change edit).2) := by
  simp only [Context.change, aside.workbook]
  cases ctx.workbook with
  | none => rfl
  | some wb => exact Prod.ext rfl (aside.withWorkbook _ _).symm

theorem execute (ctx : Context) (command : Command) :
    (f ctx).execute template command =
      ((ctx.execute template command).1, f (ctx.execute template command).2) := by
  cases command with
  | setForm formFile mode => exact Prod.ext rfl (aside.withForm _ _ _).symm
  | onSheets command =>
    cases command with
    | load name =>
      simp only [Context.execute, loadTemplate]
      cases template name with
      | error e => rfl
      | ok wb => exact Prod.ext rfl (aside.withWorkbook _ _).symm
    | activate sheet => exact aside.change _ _
    | clone source newName => exact aside.change _ _
    | delete sheet => exact aside.change _ _

theorem executeLine (ctx : Context) (line : String) :
    (f ctx).executeLine template line =
      ((ctx.executeLine template line).1, f (ctx.executeLine template line).2) := by
  unfold Context.executeLine
  cases Command.parse line with
  | error e => rfl
  | ok command => exact aside.execute ctx command

theorem executeLines (template : String → Except Error Workbook) (ctx : Context)
    (lines : List String) : (f ctx).executeLines template lines =
      ((ctx.executeLines template lines).1, f (ctx.executeLines template lines).2) := by
  induction lines generalizing ctx with
  | nil => rfl
  | cons line more ih =>
    unfold Context.executeLines
    rw [aside.executeLine]
    cases ctx.executeLine template line with
    | mk answer after =>
      cases answer with
      | error e => rfl
      | ok done => exact ih after

end Aside

theorem aside_reading (r : Reader) : Aside (·.reading r) :=
  ⟨fun _ => rfl, fun _ _ => rfl, fun _ _ _ => rfl⟩

theorem executeLines_reading (lines : List String) (r : Reader) :
    (ctx.reading r).executeLines template lines =
      ((ctx.executeLines template lines).1, (ctx.executeLines template lines).2.reading r) :=
  (aside_reading r).executeLines template ctx lines

def Loads (line : String) : Prop := ∃ name, Command.parse line = .ok (.onSheets (.load name))

theorem workbook_change {edit : Editing Unit} (done : ctx.change edit = (.ok (), after)) :
    ctx.workbook ≠ none ∧ after.workbook ≠ none := by
  unfold change at done
  cases loaded : ctx.workbook with
  | none =>
    rw [loaded] at done
    cases done
  | some wb =>
    simp only [loaded, Prod.mk.injEq] at done
    obtain ⟨-, rfl⟩ := done
    exact ⟨Option.some_ne_none wb, Option.some_ne_none _⟩

theorem workbook_executeLine {line : String}
    (done : ctx.executeLine template line = (.ok (), after)) :
    after.workbook = none ↔ ctx.workbook = none ∧ ¬ Loads line := by
  unfold executeLine at done
  cases parsed : Command.parse line with
  | error e =>
    rw [parsed] at done
    cases done
  | ok command =>
    rw [parsed] at done
    have loads : Loads line ↔ ∃ name, command = .onSheets (.load name) := by
      simp only [Loads, parsed, Except.ok.injEq]
    rw [loads]
    cases command with
    | setForm formFile mode =>
      cases done
      simp
    | onSheets command =>
      cases command with
      | load name =>
        simp only [execute, loadTemplate] at done
        cases loaded : template name with
        | error e => simp [loaded] at done
        | ok wb =>
          simp only [loaded, Prod.mk.injEq, true_and] at done
          subst done
          simp
      | activate sheet =>
        obtain ⟨before, later⟩ := workbook_change done
        simp [before, later]
      | clone source newName =>
        obtain ⟨before, later⟩ := workbook_change done
        simp [before, later]
      | delete sheet =>
        obtain ⟨before, later⟩ := workbook_change done
        simp [before, later]

theorem workbook_executeLines {lines : List String}
    (done : ctx.executeLines template lines = (.ok (), after)) :
    after.workbook = none ↔ ctx.workbook = none ∧ ∀ line ∈ lines, ¬ Loads line := by
  induction lines generalizing ctx with
  | nil =>
    cases done
    simp
  | cons line more ih =>
    unfold executeLines at done
    cases step : ctx.executeLine template line with
    | mk answer next =>
      rw [step] at done
      cases answer with
      | error e => cases done
      | ok answer =>
        rw [ih done, workbook_executeLine step, and_assoc, List.forall_mem_cons]

end ReportSheets.Context
