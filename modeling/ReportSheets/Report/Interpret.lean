import ReportSheets.Command.Reading
import ReportSheets.Report.Context
import ReportSheets.Workbook.Edit

namespace ReportSheets.Context

def change (ctx : Context) (edit : Editing Unit) : Except Error Unit × Context :=
  match ctx.workbook with
  | none => (.error .noTemplate, ctx)
  | some wb =>
    let (answer, wb) := edit.run wb
    (answer, { ctx with workbook := some wb })

/-- The template takes the place of the loaded workbook, its first sheet active. -/
def loadTemplate (template : Except Error Workbook) (ctx : Context) :
    Except Error Unit × Context :=
  match template with
  | .error e => (.error e, ctx)
  | .ok wb => (.ok (), { ctx with workbook := some { wb with active := 0 } })

def execute (template : String → Except Error Workbook) (ctx : Context) :
    Command → Except Error Unit × Context
  | .setForm formFile mode => (.ok (), { ctx with formFile := some formFile, mode })
  | .onSheets (.load name) => ctx.loadTemplate (template name)
  | .onSheets (.activate sheet) => ctx.change (.activateSheet sheet)
  | .onSheets (.clone source newName) => ctx.change (.cloneSheet source newName)
  | .onSheets (.delete sheet) => ctx.change (.deleteSheet sheet)

def executeLine (template : String → Except Error Workbook) (ctx : Context) (line : String) :
    Except Error Unit × Context :=
  match Command.parse line with
  | .error e => (.error e, ctx)
  | .ok command => ctx.execute template command

def executeLines (template : String → Except Error Workbook) (ctx : Context) :
    List String → Except Error Unit × Context
  | [] => (.ok (), ctx)
  | line :: more =>
    match ctx.executeLine template line with
    | (.error e, ctx) => (.error e, ctx)
    | (.ok (), ctx) => ctx.executeLines template more

theorem reader_change (ctx : Context) (edit : Editing Unit) :
    (ctx.change edit).2.reader = ctx.reader := by
  unfold change
  split <;> rfl

theorem reader_loadTemplate (ctx : Context) (template : Except Error Workbook) :
    (ctx.loadTemplate template).2.reader = ctx.reader := by
  cases template <;> rfl

theorem reader_execute (template : String → Except Error Workbook) (ctx : Context)
    (command : Command) : (ctx.execute template command).2.reader = ctx.reader := by
  match command with
  | .setForm .. => rfl
  | .onSheets (.load _) => exact reader_loadTemplate _ _
  | .onSheets (.activate _) => exact reader_change _ _
  | .onSheets (.clone ..) => exact reader_change _ _
  | .onSheets (.delete _) => exact reader_change _ _

theorem reader_executeLine (template : String → Except Error Workbook) (ctx : Context)
    (line : String) : (ctx.executeLine template line).2.reader = ctx.reader := by
  unfold executeLine
  split
  · rfl
  · exact reader_execute _ _ _

theorem reader_executeLines (template : String → Except Error Workbook) (ctx : Context)
    (lines : List String) : (ctx.executeLines template lines).2.reader = ctx.reader := by
  induction lines generalizing ctx with
  | nil => rfl
  | cons line more ih =>
    have first := reader_executeLine template ctx line
    unfold executeLines
    split
    · rename_i step
      simpa only [step] using first
    · rename_i step
      rw [ih]
      simpa only [step] using first

end ReportSheets.Context
