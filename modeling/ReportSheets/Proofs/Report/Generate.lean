import ReportSheets.Proofs.Report.Binding
import ReportSheets.Report.Generate

namespace ReportSheets

inductive Progress
  | settled (answer : Except Error (Option Workbook))
  | going (ctx : Context)

def ReportSection.carryOut {σ : Type} (supplies : Supplies σ) (s : ReportSection) (ctx : Context)
    (state : σ) : Progress × σ :=
  match ctx.executeLines supplies.template s.commands with
  | (.error e, _) => (.settled (.error e), state)
  | (.ok (), ctx) =>
    if ctx.workbook.isNone then (.settled (.ok none), state)
    else
      match s.bind supplies.forms ctx state with
      | (.error e, state) => (.settled (.error e), state)
      | (.ok ctx, state) => (.going ctx, state)

namespace ReportOutline

def carryOut {σ : Type} (supplies : Supplies σ) :
    List ReportSection → Context → σ → Progress × σ
  | [], ctx, state => (.going ctx, state)
  | s :: more, ctx, state =>
    match s.carryOut supplies ctx state with
    | (.settled answer, state) => (.settled answer, state)
    | (.going ctx, state) => carryOut supplies more ctx state

/-- A fault counts only when no section has settled the report. -/
def reportFrom {σ : Type} (supplies : Supplies σ) (outline : ReportOutline) (ctx : Context)
    (state : σ) : Except Error (Option Workbook) × σ :=
  match carryOut supplies outline.sections ctx state with
  | (.settled answer, state) => (answer, state)
  | (.going ctx, state) =>
    match outline.fault with
    | some e => (.error e, state)
    | none => (.ok ctx.workbook, state)

def report {σ : Type} (supplies : Supplies σ) (outline : ReportOutline) (state : σ) :
    Except Error (Option Workbook) × σ :=
  outline.reportFrom supplies { reader := { lines := [] } } state

variable {σ : Type} (supplies : Supplies σ) (ctx : Context) (state : σ)

theorem reportFrom_cons (s : ReportSection) (outline : ReportOutline) :
    (cons s outline).reportFrom supplies ctx state =
      match s.carryOut supplies ctx state with
      | (.settled answer, state) => (answer, state)
      | (.going ctx, state) => outline.reportFrom supplies ctx state := by
  unfold reportFrom cons
  simp only [carryOut]
  rcases s.carryOut supplies ctx state with ⟨answer | next, after⟩ <;> rfl

end ReportOutline

namespace Context

theorem generate_eq {σ : Type} (supplies : Supplies σ) (ctx : Context) (state : σ) :
    ctx.generate supplies state =
      match ctx.reader.functionSection with
      | (.error e, _) => (.error e, state)
      | (.ok lines, reader) =>
        match { ctx with reader }.executeLines supplies.template lines with
        | (.error e, _) => (.error e, state)
        | (.ok (), ctx) =>
          if ctx.workbook.isNone then (.ok none, state)
          else
            match ctx.bindSection supplies.forms state with
            | (.error e, _, state) => (.error e, state)
            | (.ok false, ctx, state) => (.ok ctx.workbook, state)
            | (.ok true, ctx, state) => ctx.generate supplies state := by
  rw [generate]
  split <;> rename_i read <;> simp only [read]
  split <;> rename_i executed <;> simp only [executed]
  split
  · rfl
  · split <;> rename_i bound <;> simp only [bound]

/-- Where a section is closed, a report goes on as its outline does if it does so after the
section. -/
theorem generate_section {σ : Type} (supplies : Supplies σ) (ctx : Context) (state : σ)
    {commands rest data ahead : List String} (inside : endMarker ∉ commands)
    (part : dataPart rest = data) (left : afterData rest = ahead) {outline : ReportOutline}
    {r : Reader} {behind : Nat}
    (stands : r.StandsAt behind (startMarker :: (commands ++ endMarker :: rest)))
    (follows : ∀ next state r' behind', r'.StandsAt behind' ahead →
      (if ahead.isEmpty then (.ok next.workbook, state)
        else (next.reading r').generate supplies state) =
        outline.reportFrom supplies next state) :
    (ctx.reading r).generate supplies state =
      (outline.cons ⟨commands, data⟩).reportFrom supplies ctx state := by
  subst part left
  obtain ⟨r', read, beyond⟩ := stands.functionSection_closed inside
  rw [generate_eq, reading_reader, ReportOutline.reportFrom_cons, ReportSection.carryOut]
  have same : { ctx.reading r with reader := r' } = ctx.reading r' := rfl
  simp only [read, same, executeLines_reading]
  rcases ctx.executeLines supplies.template commands with ⟨answer, executed⟩
  cases answer with
  | error e => rfl
  | ok done =>
    by_cases bare : executed.workbook.isNone = true
    · simp only [reading_workbook, bare, if_true]
    · simp only [reading_workbook, bare, Bool.false_eq_true, if_false]
      have binding := executed.binds supplies.forms state commands beyond
      generalize ReportSection.bind supplies.forms ⟨commands, dataPart rest⟩ executed state =
        outcome at binding ⊢
      cases binding with
      | failed given => simp only [given]
      | @bound next r' state' given left =>
        have onward := follows next state' r' _ left
        simp only [given]
        rw [← onward]
        cases (afterData rest).isEmpty <;> rfl

/-- From a `<start>` line on, reading as one goes comes to cutting the lines first. -/
theorem generate_afterStart {σ : Type} (supplies : Supplies σ) (ctx : Context) (state : σ)
    (lines : List String) {r : Reader} {behind : Nat}
    (stands : r.StandsAt behind (startMarker :: lines)) :
    (ctx.reading r).generate supplies state =
      (ReportOutline.afterStart lines).reportFrom supplies ctx state := by
  induction lines using ReportOutline.afterStartInduction generalizing ctx state r behind with
  | unclosed lines unclosed =>
    obtain ⟨r', read, -⟩ := stands.functionSection_open unclosed
    rw [generate_eq, reading_reader, ReportOutline.afterStart_unclosed unclosed, read]
    rfl
  | last commands data inside unmarked =>
    rw [ReportOutline.afterStart_last inside unmarked]
    apply generate_section supplies ctx state inside (dataPart_unmarked unmarked)
      (afterData_unmarked unmarked) stands
    intro next state r' behind' stands
    rfl
  | another commands data more inside unmarked ih =>
    rw [ReportOutline.afterStart_another more inside unmarked]
    apply generate_section supplies ctx state inside (dataPart_append_start unmarked more)
      (afterData_append_start unmarked more) stands
    intro next state r' behind' stands
    exact ih next state stands

theorem generate_ofLines {σ : Type} (supplies : Supplies σ) (state : σ) {lines : List String}
    {r : Reader} (stands : r.StandsAt 0 lines) :
    generateReport supplies r state = (ReportOutline.ofLines lines).report supplies state := by
  show (Context.reading { reader := { lines := [] } } r).generate supplies state = _
  cases lines with
  | nil =>
    rw [generate_eq, reading_reader, stands.functionSection_nil]
    rfl
  | cons line lines =>
    by_cases marker : line = startMarker
    · subst marker
      rw [generate_afterStart _ _ _ _ stands, ReportOutline.ofLines, if_pos rfl]
      rfl
    · obtain ⟨r', read, -⟩ := stands.functionSection_other marker
      rw [generate_eq, reading_reader, read, ReportOutline.ofLines, if_neg marker]
      rfl

end Context

namespace ReportSection

variable {σ : Type} {supplies : Supplies σ} {s : ReportSection} {ctx next : Context}
  {state state' : σ}

theorem workbook_carryOut (done : s.carryOut supplies ctx state = (.going next, state')) :
    next.workbook ≠ none := by
  unfold carryOut at done
  split at done
  · cases done
  split at done
  · cases done
  split at done
  · cases done
  · rename_i bound
    cases done
    exact workbook_bind bound

/-- A section leaves a report without a workbook when its commands succeed and load none. -/
theorem carryOut_none_iff :
    (s.carryOut supplies ctx state).1 = .settled (.ok none) ↔
      (ctx.executeLines supplies.template s.commands).1 = .ok () ∧ ctx.workbook = none ∧
        ∀ line ∈ s.commands, ¬ Context.Loads line := by
  unfold carryOut
  cases executed : ctx.executeLines supplies.template s.commands with
  | mk answer after =>
    cases answer with
    | error e => simp
    | ok done =>
      have bare := Context.workbook_executeLines executed
      simp only [true_and]
      rw [← bare]
      cases after.workbook with
      | none => simp
      | some wb =>
        simp only [Option.isNone_some, Bool.false_eq_true, if_false]
        rcases s.bind supplies.forms after state with ⟨answer, state'⟩
        cases answer <;> simp

end ReportSection

namespace ReportOutline

variable {σ : Type} {supplies : Supplies σ} {ctx : Context} {state : σ}

/-- With a workbook loaded there is a report or an error. -/
theorem reportFrom_ne_none (outline : ReportOutline) (loaded : ctx.workbook ≠ none) :
    (outline.reportFrom supplies ctx state).1 ≠ .ok none := by
  obtain ⟨sections, fault⟩ := outline
  induction sections generalizing ctx state with
  | nil =>
    cases fault with
    | none => simpa [reportFrom, carryOut] using loaded
    | some e => simp [reportFrom, carryOut]
  | cons s more ih =>
    show ((cons s ⟨more, fault⟩).reportFrom supplies ctx state).1 ≠ _
    rw [reportFrom_cons]
    cases step : s.carryOut supplies ctx state with
    | mk progress state' =>
      cases progress with
      | going next => exact ih (ReportSection.workbook_carryOut step)
      | settled answer =>
        intro same
        have none : (s.carryOut supplies ctx state).1 = .settled (.ok none) := by
          rw [step]
          exact congrArg Progress.settled same
        exact loaded (ReportSection.carryOut_none_iff.1 none).2.1

theorem reportFrom_cons_none_iff (s : ReportSection) (outline : ReportOutline) :
    ((cons s outline).reportFrom supplies ctx state).1 = .ok none ↔
      (s.carryOut supplies ctx state).1 = .settled (.ok none) := by
  rw [reportFrom_cons]
  cases step : s.carryOut supplies ctx state with
  | mk progress state' =>
    cases progress with
    | going next => simpa using outline.reportFrom_ne_none (ReportSection.workbook_carryOut step)
    | settled answer => simp

theorem report_ofLines_none_iff (lines : List String) :
    ((ofLines lines).report supplies state).1 = .ok none ↔
      ∃ commands rest, lines = startMarker :: (commands ++ endMarker :: rest) ∧
        endMarker ∉ commands ∧
        (Context.executeLines supplies.template { reader := { lines := [] } } commands).1 = .ok () ∧
        ∀ line ∈ commands, ¬ Context.Loads line := by
  constructor
  · intro none
    cases lines with
    | nil => simp [ofLines, report, reportFrom, carryOut] at none
    | cons line lines =>
      by_cases marker : line = startMarker
      · subst marker
        rw [ofLines, if_pos rfl] at none
        by_cases closed : endMarker ∈ lines
        · obtain ⟨commands, rest, rfl, inside⟩ := List.eq_append_cons_of_mem closed
          rw [report, afterStart_closed inside, reportFrom_cons_none_iff,
            ReportSection.carryOut_none_iff] at none
          obtain ⟨done, -, bare⟩ := none
          exact ⟨commands, rest, rfl, inside, done, bare⟩
        · rw [afterStart_unclosed closed] at none
          simp [report, reportFrom, carryOut] at none
      · rw [ofLines, if_neg marker] at none
        simp [report, reportFrom, carryOut] at none
  · rintro ⟨commands, rest, rfl, inside, done, bare⟩
    rw [ofLines, if_pos rfl, report, afterStart_closed inside, reportFrom_cons_none_iff,
      ReportSection.carryOut_none_iff]
    exact ⟨done, rfl, bare⟩

end ReportOutline

/-- Reading, executing and binding in turn gives the report, or the first error, of the sections that
the whole text is cut into. There is no workbook exactly when the first function section is
complete, and its commands succeed and load no template. -/
theorem generateReport_ofBytes {σ : Type} (supplies : Supplies σ) (text : String) (state : σ) :
    generateReport supplies (Reader.ofBytes text.toUTF8) state =
        (ReportOutline.ofText text).report supplies state ∧
      ((generateReport supplies (Reader.ofBytes text.toUTF8) state).1 = .ok none ↔
        ∃ commands rest, textLines text = startMarker :: (commands ++ endMarker :: rest) ∧
          endMarker ∉ commands ∧
          (Context.executeLines supplies.template { reader := { lines := [] } } commands).1 =
            .ok () ∧
          ∀ line ∈ commands, ¬ Context.Loads line) ∧
      ((ReportOutline.ofText text).fault = none →
        (ReportOutline.ofText text).sections.flatMap ReportSection.lines = textLines text) ∧
      ∀ e, (ReportOutline.ofText text).fault = some e → e.kind = .format := by
  have agree : generateReport supplies (Reader.ofBytes text.toUTF8) state =
      (ReportOutline.ofText text).report supplies state :=
    Context.generate_ofLines supplies state (Reader.standsAt_ofBytes text)
  refine ⟨agree, ?_, ?_, ?_⟩
  · rw [agree]
    exact ReportOutline.report_ofLines_none_iff (textLines text)
  · intro whole
    exact ReportOutline.lines_ofLines (textLines text) whole
  · intro e faulty
    exact ReportOutline.kind_fault_ofLines (textLines text) faulty

/-- The section before the one that is never closed is bound all the same, and its form is loaded. -/
theorem generateReport_ofBytes_of_unclosed_section :
    let supplies : Supplies Nat := {
      template := fun _ => .ok { sheets := [{ name := "S" }] }
      forms := { load := fun _ count => (.ok [{ name := "a", location := "A1" }], count + 1) } }
    let text := "<start>\nVrComout=XSFN NAME=T\nVrSetForm=F,0\n<end>\na\n1\n2\n"
    let cut := text ++ "<start>\nVrSetForm=G,0\n"
    let filled : Workbook := {
      sheets := [{ name := "S", cells := .ofList [(⟨0, 0⟩, .text "2")] }] }
    generateReport supplies (Reader.ofBytes text.toUTF8) 0 = (.ok (some filled), 1) ∧
      (ReportOutline.ofText text).sections.flatMap ReportSection.lines = textLines text ∧
      generateReport supplies (Reader.ofBytes cut.toUTF8) 0 = (.error .sectionNotClosed, 1) ∧
      Error.sectionNotClosed.kind = .format ∧
      (generateReport supplies (Reader.ofBytes "<start>\n<end>\na\n".toUTF8) 0).1 = .ok none := by
  intro supplies text cut filled
  have whole : (ReportOutline.ofText text).fault = none := by decide +kernel
  have faulty : (ReportOutline.ofText cut).fault = some .sectionNotClosed := by decide +kernel
  obtain ⟨agree, -, lines, -⟩ := generateReport_ofBytes supplies text 0
  obtain ⟨agreeCut, -, -, kind⟩ := generateReport_ofBytes supplies cut 0
  have bare := (generateReport_ofBytes supplies "<start>\n<end>\na\n" 0).2.1
  refine ⟨?_, lines whole, ?_, kind _ faulty, bare.mpr ⟨[], ["a"], by decide, List.not_mem_nil,
    rfl, by simp⟩⟩
  · rw [agree]
    decide +kernel
  · rw [agreeCut]
    decide +kernel

end ReportSheets
