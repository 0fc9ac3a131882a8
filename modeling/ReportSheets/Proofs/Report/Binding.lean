import ReportSheets.Proofs.Report.Commands
import ReportSheets.Proofs.Report.Outline
import ReportSheets.Report.Bind

namespace ReportSheets

namespace Registry

def bindAll (registry : Registry) (wb : Workbook) : List DataRow → Except Error Workbook
  | [] => .ok wb
  | row :: more =>
    match registry.bindRow wb row with
    | (.error e, _) => .error e
    | (.ok _, wb) => registry.bindAll wb more

variable {registry : Registry} {wb after : Workbook} {s s' : DataSection} {r r' : Reader}
  {row : DataRow} {e : Error}

theorem bindRows_ended (step : s.next r = (none, s', r')) :
    registry.bindRows wb s r = (.ok s', wb, r') := by
  rw [bindRows]
  split <;> rename_i given <;> rw [step] at given <;> cases given
  rfl

theorem bindRows_bound {written : Nat} (step : s.next r = (some (.ok row), s', r'))
    (bound : registry.bindRow wb row = (.ok written, after)) :
    registry.bindRows wb s r = registry.bindRows after s' r' := by
  rw [bindRows]
  split <;> rename_i given <;> rw [step] at given <;> cases given
  simp only [bound]

theorem bindRows_refused (step : s.next r = (some (.ok row), s', r'))
    (refused : registry.bindRow wb row = (.error e, after)) :
    registry.bindRows wb s r = (.error e, after, r') := by
  rw [bindRows]
  split <;> rename_i given <;> rw [step] at given <;> cases given
  simp only [refused]

end Registry

namespace DataSection.Gives

variable {registry : Registry} {wb after : Workbook} {s : DataSection} {r : Reader}
  {rows : List DataRow} {behind : Nat} {ahead : List String} {e : Error}

theorem bindRows_ok (gives : s.Gives Csv.tokenize r rows behind ahead)
    (done : registry.bindAll wb rows = .ok after) :
    ∃ s' r', registry.bindRows wb s r = (.ok s', after, r') ∧
      s'.Gives Csv.tokenize r' [] behind ahead := by
  induction rows generalizing wb r with
  | nil =>
    cases done
    obtain ⟨r', step, stands⟩ := gives.next_ended Csv.Tokenizer.total_tokenize
    exact ⟨_, r', Registry.bindRows_ended step, .ended stands rfl⟩
  | cons row rows ih =>
    obtain ⟨r', step, later⟩ := gives.next_row Csv.Tokenizer.total_tokenize
    rw [Registry.bindAll] at done
    rcases first : registry.bindRow wb row with ⟨answer, next⟩
    rw [first] at done
    cases answer with
    | error e => cases done
    | ok written =>
      rw [Registry.bindRows_bound step first]
      exact ih later done

theorem bindRows_error (gives : s.Gives Csv.tokenize r rows behind ahead)
    (failed : registry.bindAll wb rows = .error e) : (registry.bindRows wb s r).1 = .error e := by
  induction rows generalizing wb r with
  | nil => cases failed
  | cons row rows ih =>
    obtain ⟨r', step, later⟩ := gives.next_row Csv.Tokenizer.total_tokenize
    rw [Registry.bindAll] at failed
    rcases first : registry.bindRow wb row with ⟨answer, next⟩
    rw [first] at failed
    cases answer with
    | error e =>
      cases failed
      rw [Registry.bindRows_refused step first]
    | ok written =>
      rw [Registry.bindRows_bound step first]
      exact ih later failed

end DataSection.Gives

/-- Binds the data of a section to the loaded workbook: the form comes first, then the workbook, then
the rows. -/
def ReportSection.bind {σ : Type} (forms : FieldSource σ) (s : ReportSection) (ctx : Context)
    (state : σ) : Except Error Context × σ :=
  match ctx.formFile with
  | none => (.error .noForm, state)
  | some formFile =>
    match ctx.registries.getOrLoad forms formFile state with
    | (.error e, _, state) => (.error e, state)
    | (.ok registry, registries, state) =>
      match ctx.workbook with
      | none => (.error .noTemplate, state)
      | some wb =>
        match registry.bindAll wb (rowsOf Csv.tokenize s.data) with
        | .error e => (.error e, state)
        | .ok wb => (.ok { ctx with workbook := some wb, registries }, state)

theorem ReportSection.workbook_bind {σ : Type} {forms : FieldSource σ} {s : ReportSection}
    {ctx next : Context} {state state' : σ} (done : s.bind forms ctx state = (.ok next, state')) :
    next.workbook ≠ none := by
  unfold ReportSection.bind at done
  split at done
  · cases done
  split at done
  · cases done
  split at done
  · cases done
  split at done
  · cases done
  · cases done
    exact Option.some_ne_none _

namespace Context

variable {registry : Registry} {wb after : Workbook} {behind : Nat} {lines : List String}
  {e : Error}

theorem bindWith_ok (ctx : Context) (stands : ctx.reader.StandsAt behind lines)
    (loaded : ctx.workbook = some wb)
    (bound : registry.bindAll wb (rowsOf Csv.tokenize (dataPart lines)) = .ok after) :
    ∃ r, ctx.bindWith registry =
        (.ok (!(afterData lines).isEmpty), { ctx with workbook := some after, reader := r }) ∧
      r.StandsAt (behind + (dataPart lines).length) (afterData lines) := by
  obtain ⟨s, begun, opened, -, gives⟩ := stands.dataSectionBy Csv.Tokenizer.total_tokenize
  obtain ⟨s', midway, rows, left⟩ := gives.bindRows_ok bound
  obtain ⟨r, finished, later⟩ := left.finish
  refine ⟨r, ?_, later⟩
  simp only [bindWith, loaded, Reader.dataSection, opened, bindBody, rows, finished]

theorem bindWith_error (ctx : Context) (stands : ctx.reader.StandsAt behind lines)
    (loaded : ctx.workbook = some wb)
    (failed : registry.bindAll wb (rowsOf Csv.tokenize (dataPart lines)) = .error e) :
    (ctx.bindWith registry).1 = .error e := by
  obtain ⟨s, begun, opened, -, gives⟩ := stands.dataSectionBy Csv.Tokenizer.total_tokenize
  have refused := gives.bindRows_error failed
  simp only [bindWith, loaded, Reader.dataSection, opened, bindBody]
  rcases rows : registry.bindRows wb s begun with ⟨answer, result⟩
  rw [rows] at refused
  cases refused
  rfl

inductive Binds {σ : Type} (forms : FieldSource σ) (ctx : Context) (r : Reader) (state : σ)
    (behind : Nat) (ahead : List String) : Except Error Context × σ → Prop
  | failed {e : Error} {after : Context} {state' : σ}
      (given : (ctx.reading r).bindSection forms state = (.error e, after, state')) :
      Binds forms ctx r state behind ahead (.error e, state')
  | bound {next : Context} {r' : Reader} {state' : σ}
      (given : (ctx.reading r).bindSection forms state = (.ok (!ahead.isEmpty), next.reading r', state'))
      (stands : r'.StandsAt behind ahead) :
      Binds forms ctx r state behind ahead (.ok next, state')

theorem binds {σ : Type} (forms : FieldSource σ) (ctx : Context) (state : σ)
    (commands : List String) {r : Reader} (stands : r.StandsAt behind lines) :
    ctx.Binds forms r state (behind + (dataPart lines).length) (afterData lines)
      (ReportSection.bind forms ⟨commands, dataPart lines⟩ ctx state) := by
  obtain ⟨reader, formFile, mode, workbook, registries⟩ := ctx
  unfold ReportSection.bind
  cases formFile with
  | none => exact .failed rfl
  | some formFile =>
    simp only
    rcases loading : registries.getOrLoad forms formFile state with ⟨answer, cache, state'⟩
    cases answer with
    | error e => exact .failed (by simp only [bindSection, reading, loading]; rfl)
    | ok registry =>
      have begun : ∀ more next,
          bindWith registry ⟨r, some formFile, mode, workbook, cache⟩ = (more, next) →
          bindSection forms ⟨r, some formFile, mode, workbook, registries⟩ state =
            (more, next, state') := by
        intro more next given
        simp only [bindSection, loading, given]
      cases workbook with
      | none => exact .failed (begun _ _ rfl)
      | some wb =>
        simp only
        cases bound : registry.bindAll wb (rowsOf Csv.tokenize (dataPart lines)) with
        | error e =>
          have refused := bindWith_error ⟨r, some formFile, mode, some wb, cache⟩ stands rfl bound
          exact .failed (begun _ _ (Prod.ext refused rfl))
        | ok after =>
          obtain ⟨r', given, left⟩ :=
            bindWith_ok ⟨r, some formFile, mode, some wb, cache⟩ stands rfl bound
          exact .bound (begun _ _ given) left

end Context

end ReportSheets
