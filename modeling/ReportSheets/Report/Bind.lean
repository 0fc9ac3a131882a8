import ReportSheets.Data.Progress
import ReportSheets.Report.Context

namespace ReportSheets

def Workbook.fill (wb : Workbook) (field : Field) (value : String) : Except Error Workbook := do
  let text ← field.cellText value
  let address ← field.address
  wb.setText address text

def Registry.bindColumns (registry : Registry) (wb : Workbook) :
    List (String × String) → Except Error Nat × Workbook
  | [] => (.ok 0, wb)
  | (column, value) :: more =>
    match registry.get? column with
    | none => registry.bindColumns wb more
    | some field =>
      match wb.fill field value with
      | .error e => (.error e, wb)
      | .ok wb =>
        let (written, wb) := registry.bindColumns wb more
        (written.map (· + 1), wb)

def Registry.bindRow (registry : Registry) (wb : Workbook) (row : DataRow) :
    Except Error Nat × Workbook :=
  registry.bindColumns wb row.columns

def Registry.bindRows (registry : Registry) (wb : Workbook) (s : DataSection) (r : Reader) :
    Except Error DataSection × Workbook × Reader :=
  match _next : s.next r with
  | (none, s, r) => (.ok s, wb, r)
  | (some (.error e), _, r) => (.error e, wb, r)
  | (some (.ok row), s, r) =>
    match registry.bindRow wb row with
    | (.error e, wb) => (.error e, wb, r)
    | (.ok _, wb) => registry.bindRows wb s r
termination_by r.remaining
decreasing_by exact DataSection.remaining_next _next

namespace Context

def bindBody (registry : Registry) (wb : Workbook) (ctx : Context) (s : DataSection) :
    Except Error Bool × Context :=
  match registry.bindRows wb s ctx.reader with
  | (.error e, wb, reader) => (.error e, { ctx with workbook := some wb, reader })
  | (.ok s, wb, reader) =>
    let (more, reader) := s.finish reader
    (more, { ctx with workbook := some wb, reader })

def bindWith (registry : Registry) (ctx : Context) : Except Error Bool × Context :=
  match ctx.workbook with
  | none => (.error .noTemplate, ctx)
  | some wb =>
    match ctx.reader.dataSection with
    | (.error e, reader) => (.error e, { ctx with reader })
    | (.ok s, reader) => { ctx with reader }.bindBody registry wb s

/-- Binds the data section that comes next; true when a function section follows it. -/
def bindSection {σ : Type} (forms : FieldSource σ) (ctx : Context) (state : σ) :
    Except Error Bool × Context × σ :=
  match ctx.formFile with
  | none => (.error .noForm, ctx, state)
  | some formFile =>
    match ctx.registries.getOrLoad forms formFile state with
    | (.error e, registries, state) => (.error e, { ctx with registries }, state)
    | (.ok registry, registries, state) =>
      let (more, ctx) := { ctx with registries }.bindWith registry
      (more, ctx, state)

end Context

end ReportSheets
