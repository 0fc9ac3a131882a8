import ReportSheets.Report.Bind
import ReportSheets.Report.Interpret

namespace ReportSheets

theorem Registry.remaining_bindRows (registry : Registry) (wb : Workbook) (s : DataSection)
    (r : Reader) : (registry.bindRows wb s r).2.2.remaining ≤ r.remaining := by
  fun_induction Registry.bindRows registry wb s r with
  | case1 wb s r s' r' step =>
    have bound := DataSection.remaining_next_le s r
    rwa [step] at bound
  | case2 wb s r e s' r' step =>
    have bound := DataSection.remaining_next_le s r
    rwa [step] at bound
  | case3 wb s r row s' r' step e wb' failed => exact Nat.le_of_lt (DataSection.remaining_next step)
  | case4 wb s r row s' r' step count wb' bound ih =>
    exact Nat.le_trans ih (Nat.le_of_lt (DataSection.remaining_next step))

namespace Context

theorem remaining_bindBody (registry : Registry) (wb : Workbook) (ctx : Context)
    (s : DataSection) : (ctx.bindBody registry wb s).2.reader.remaining ≤ ctx.reader.remaining := by
  have bound := registry.remaining_bindRows wb s ctx.reader
  unfold bindBody
  split
  · rename_i step
    simpa only [step] using bound
  · rename_i s' wb' reader step
    rw [step] at bound
    exact Nat.le_trans (s'.remaining_finish reader) bound

theorem remaining_bindWith (registry : Registry) (ctx : Context) :
    (ctx.bindWith registry).2.reader.remaining ≤ ctx.reader.remaining := by
  have bound := ctx.reader.remaining_dataSection
  unfold bindWith
  split
  · exact Nat.le_refl _
  · split
    · rename_i step
      simpa only [step] using bound
    · rename_i s reader step
      rw [step] at bound
      exact Nat.le_trans (remaining_bindBody _ _ _ _) bound

theorem remaining_bindSection {σ : Type} (forms : FieldSource σ) (ctx : Context) (state : σ) :
    (ctx.bindSection forms state).2.1.reader.remaining ≤ ctx.reader.remaining := by
  unfold bindSection
  split
  · exact Nat.le_refl _
  · split
    · exact Nat.le_refl _
    · rename_i registries _ _
      exact remaining_bindWith _ _

theorem remaining_of_steps {σ : Type} {template : String → Except Error Workbook}
    {forms : FieldSource σ} {start ctx next : Context} {lines : List String} {reader : Reader}
    {state state' : σ} {more : Bool}
    (read : start.reader.functionSection = (.ok lines, reader))
    (executed : { start with reader }.executeLines template lines = (.ok (), ctx))
    (bound : ctx.bindSection forms state = (.ok more, next, state')) :
    next.reader.remaining < start.reader.remaining := by
  have consumed := Reader.remaining_functionSection read
  have kept := reader_executeLines template { start with reader } lines
  have rest := remaining_bindSection forms ctx state
  rw [executed] at kept
  rw [bound] at rest
  simp only at kept rest
  rw [kept] at rest
  exact Nat.lt_of_le_of_lt rest consumed

def generate {σ : Type} (supplies : Supplies σ) (ctx : Context) (state : σ) :
    Except Error (Option Workbook) × σ :=
  match _commands : ctx.reader.functionSection with
  | (.error e, _) => (.error e, state)
  | (.ok lines, reader) =>
    match _executed : { ctx with reader }.executeLines supplies.template lines with
    | (.error e, _) => (.error e, state)
    | (.ok (), ctx) =>
      if ctx.workbook.isNone then (.ok none, state)
      else
        match _bound : ctx.bindSection supplies.forms state with
        | (.error e, _, state) => (.error e, state)
        | (.ok false, ctx, state) => (.ok ctx.workbook, state)
        | (.ok true, ctx, state) => ctx.generate supplies state
termination_by ctx.reader.remaining
decreasing_by exact remaining_of_steps _commands _executed _bound

end Context

def generateReport {σ : Type} (supplies : Supplies σ) (reader : Reader) (state : σ) :
    Except Error (Option Workbook) × σ :=
  Context.generate supplies { reader } state

end ReportSheets
