import ReportSheets.Proofs.Formula.Failure
import ReportSheets.Proofs.Report.SheetCommands
import ReportSheets.Proofs.Report.Writes
import ReportSheets.Proofs.Workbook.Saving

namespace ReportSheets

namespace Workbook

variable {wb after : Workbook} {command : Command} {e : Error}

theorem activeSheet?_ne_none (inRange : wb.active < wb.size) : wb.activeSheet? ≠ none := by
  rw [activeSheet?, List.getElem?_eq_getElem inRange]
  exact Option.some_ne_none _

theorem ActiveKept.of_obey (kept : wb.ActiveKept) (command : Command) :
    (wb.settle (wb.obey command)).2.ActiveKept := by
  cases done : wb.obey command with
  | error e => exact kept
  | ok result =>
    obtain ⟨⟨⟩, after⟩ := result
    show after.ActiveKept
    match command with
    | .setForm _ _ | .onSheets (.load _) =>
      cases done
      exact kept
    | .onSheets (.activate sheet) =>
      obtain ⟨index, resolved, -⟩ := of_bind_ok done
      rw [obey, activateSheet_of_resolve resolved] at done
      cases done
      exact kept.of_edited (.activated index (lt_of_resolve resolved))
    | .onSheets (.clone source newName) =>
      obtain ⟨index, sheet, -, -, rfl⟩ := cloneSheet_eq_ok done
      left
      simp [size]
    | .onSheets (.delete sheet) =>
      obtain ⟨index, resolved, -⟩ := of_bind_ok done
      rw [obey, deleteSheet_of_resolve resolved] at done
      cases done
      exact kept.of_edited (.removed index (lt_of_resolve resolved))

def DeletesOnly (wb : Workbook) (command : Command) : Prop :=
  ∃ sheet, command = .onSheets (.delete sheet) ∧ wb.size = 1 ∧ wb.resolve sheet = .ok 0

/-- Without sheets every reference is to a sheet that is missing. -/
theorem sheets_of_obey_eq_nil_iff (command : Command) :
    (wb.settle (wb.obey command)).2.sheets = [] ↔ wb.sheets = [] ∨ wb.DeletesOnly command := by
  match command with
  | .setForm _ _ | .onSheets (.load _) => simp [obey, settle, DeletesOnly]
  | .onSheets (.activate sheet) =>
    have kept : (wb.settle (wb.activateSheet sheet)).2.sheets = wb.sheets := by
      cases resolved : wb.resolve sheet with
      | error e =>
        rw [activateSheet_of_resolve_error resolved]
        rfl
      | ok index =>
        rw [activateSheet_of_resolve resolved]
        rfl
    simp [obey, kept, DeletesOnly]
  | .onSheets (.clone source newName) =>
    cases done : wb.cloneSheet source newName with
    | error e => simp [obey, done, settle, DeletesOnly]
    | ok result =>
      obtain ⟨⟨⟩, after⟩ := result
      obtain ⟨index, sheet, resolved, -, rfl⟩ := cloneSheet_eq_ok done
      have inside := lt_of_resolve resolved
      have some : wb.sheets ≠ [] := List.ne_nil_of_length_pos (Nat.zero_lt_of_lt inside)
      simp [obey, done, settle, DeletesOnly, some]
  | .onSheets (.delete sheet) =>
    cases resolved : wb.resolve sheet with
    | error e =>
      simp [obey, deleteSheet_of_resolve_error resolved, settle, DeletesOnly, resolved]
    | ok index =>
      have gone : wb.DeletesOnly (.onSheets (.delete sheet)) ↔
          wb.sheets.length = 1 ∧ index = 0 := by
        simp [DeletesOnly, resolved, size]
      rw [obey, deleteSheet_of_resolve resolved, gone]
      exact List.eraseIdx_eq_nil_iff

/-- With an active sheet only formulas and locations can be in the way. -/
theorem Fills.ne_noActiveSheet {entries : List FieldValue}
    (fills : wb.Fills entries (.error e) after) (active : wb.activeSheet? ≠ none) :
    e ≠ .noActiveSheet := by
  rintro rfl
  -- writes before the refusal leave the sheet active, and formulas and locations fail otherwise
  cases fills with
  | refused split each overlaid refuses =>
    obtain ⟨sheet, found⟩ := Option.ne_none_iff_exists'.mp active
    obtain ⟨filled, stillFound, -⟩ := overlaid.sheet sheet found
    cases refuses with
    | formula failed =>
      rcases Field.kind_of_cellText_error failed with kind | kind | kind <;> cases kind
    | location given failed => cases Field.kind_of_address_error failed
    | sheet writes missing =>
      rw [stillFound] at missing
      cases missing

theorem fill_of_no_sheets {field : Field} {value : String} {write : CellWrite}
    (none : wb.sheets = []) (writes : FieldValue.Writes ⟨field, value⟩ write) :
    wb.fill field value = .error .noActiveSheet := by
  unfold fill
  rw [writes.text, writes.address]
  show wb.setText _ _ = _
  simp only [setText, activeSheet?, none, List.getElem?_nil]

theorem save_of_no_sheets (none : wb.sheets = []) : wb.save = .ok emptySaved := by
  obtain ⟨sheets, active⟩ := wb
  cases none
  exact save_nil active

end Workbook

namespace Context

variable {template : String → Except Error Workbook} {ctx : Context} {wb : Workbook}
  {line : String} {lines : List String}

def DeletesOnly (ctx : Context) (line : String) : Prop :=
  ∃ command wb, Command.parse line = .ok command ∧ ctx.workbook = some wb ∧ wb.DeletesOnly command

theorem active_executeLine (loaded : ctx.workbook = some wb) (loads : ¬ Loads line) :
    ∃ after, (ctx.executeLine template line).2.workbook = some after ∧
      (wb.ActiveKept → after.ActiveKept) ∧
      (after.sheets = [] ↔ wb.sheets = [] ∨ ctx.DeletesOnly line) := by
  unfold executeLine
  cases parsed : Command.parse line with
  | error e =>
    refine ⟨wb, loaded, id, ?_⟩
    simp [DeletesOnly, parsed]
  | ok command =>
    have notLoading : ∀ name, command ≠ .onSheets (.load name) := by
      rintro name rfl
      exact loads ⟨name, parsed⟩
    have only : ctx.DeletesOnly line ↔ wb.DeletesOnly command := by
      simp [DeletesOnly, parsed, loaded]
    refine ⟨_, workbook_execute loaded notLoading, fun kept => kept.of_obey command, ?_⟩
    rw [only]
    exact Workbook.sheets_of_obey_eq_nil_iff command

def Empties (template : String → Except Error Workbook) (ctx : Context) (lines : List String) :
    Prop :=
  ∃ earlier line later, lines = earlier ++ line :: later ∧
    (ctx.tryLines template earlier).DeletesOnly line

theorem empties_cons_iff :
    ctx.Empties template (line :: lines) ↔
      ctx.DeletesOnly line ∨ (ctx.executeLine template line).2.Empties template lines := by
  constructor
  · rintro ⟨earlier, deleting, later, split, only⟩
    cases earlier with
    | nil =>
      cases split
      exact .inl only
    | cons first earlier =>
      cases split
      exact .inr ⟨earlier, deleting, later, rfl, only⟩
  · rintro (only | ⟨earlier, deleting, later, rfl, only⟩)
    · exact ⟨[], line, lines, rfl, only⟩
    · exact ⟨line :: earlier, deleting, later, rfl, only⟩

theorem active_tryLines (loaded : ctx.workbook = some wb) (loads : ∀ line ∈ lines, ¬ Loads line) :
    ∃ after, (ctx.tryLines template lines).workbook = some after ∧
      (wb.ActiveKept → after.ActiveKept) ∧
      (after.sheets = [] ↔ wb.sheets = [] ∨ ctx.Empties template lines) := by
  induction lines generalizing ctx wb with
  | nil =>
    refine ⟨wb, loaded, id, ?_⟩
    simp [Empties]
  | cons line more ih =>
    rw [List.forall_mem_cons] at loads
    -- a workbook that this line empties stays so, and one that it does not is left to the rest
    obtain ⟨next, given, keptNext, empty⟩ := active_executeLine loaded loads.1
    obtain ⟨after, left, kept, emptied⟩ := ih given loads.2
    refine ⟨after, left, fun start => kept (keptNext start), ?_⟩
    rw [emptied, empty, empties_cons_iff, or_assoc]

/-- Lines that load no template leave a workbook without sheets just where one of them deletes the
only sheet. Otherwise a sheet is active: no row fails for the lack of one, and the file holds the
workbook's own sheets. -/
theorem active_unless_emptied (template : String → Except Error Workbook) (ctx : Context)
    (loaded : ctx.workbook = some wb) (inRange : wb.active < wb.size) (lines : List String)
    (loads : ∀ line ∈ lines, ¬ Loads line) :
    ∃ after, (ctx.tryLines template lines).workbook = some after ∧
      (after.sheets = [] ↔ ctx.Empties template lines) ∧
      (after.sheets ≠ [] → after.active < after.size ∧
        (∀ (registry : Registry) (row : DataRow),
          (registry.bindRow after row).1 ≠ .error .noActiveSheet) ∧
        ∀ book, after.save = .ok book →
          List.Forall₂ (fun sheet saved => sheet.save = .ok saved) after.sheets book.sheets ∧
            book.sheets.map (·.name) = after.names ∧ book.activeTab = after.active) ∧
      (after.sheets = [] → after.save = .ok Workbook.emptySaved ∧
        ∀ (field : Field) (value : String) (write : CellWrite),
          FieldValue.Writes ⟨field, value⟩ write →
            after.fill field value = .error .noActiveSheet) := by
  obtain ⟨after, left, kept, emptied⟩ := active_tryLines loaded loads
  have some : wb.sheets ≠ [] := List.ne_nil_of_length_pos (Nat.zero_lt_of_lt inRange)
  refine ⟨after, left, by simpa [some] using emptied, ?_, ?_⟩
  · intro sheets
    have active : after.active < after.size := by
      rcases kept (.inl inRange) with active | ⟨none, -⟩
      · exact active
      · exact absurd (List.eq_nil_of_length_eq_zero none) sheets
    refine ⟨active, ?_, fun book done => ?_⟩
    · intro registry row failed
      have fills := registry.fills_bindColumns after row.columns
      rw [← Registry.bindRow, failed] at fills
      exact fills.ne_noActiveSheet (Workbook.activeSheet?_ne_none active) rfl
    · obtain ⟨saves, tab⟩ := Workbook.save_eq_ok done active
      exact ⟨saves, Workbook.names_of_save done active, tab⟩
  · intro none
    exact ⟨Workbook.save_of_no_sheets none, fun _ _ _ => Workbook.fill_of_no_sheets none⟩

theorem active_unless_emptied_of_clone :
    let wb : Workbook := { sheets := [{ name := "A" }, { name := "B" }], active := 1 }
    let ctx : Context := { reader := { lines := [] }, workbook := some wb }
    let lines := ["VrComout=XSSD NAME=B", "VrComout=XSSA NAME=B", "VrComout=XSSC NO=0 CHANGE=C"]
    wb.active < wb.size ∧ (∀ line ∈ lines, ¬ Loads line) ∧
      ∃ after, (ctx.tryLines (fun name => .error (.templateMissing name)) lines).workbook =
          some after ∧
        after.names = ["A", "C"] ∧ after.active < after.size := by
  intro wb ctx lines
  have inRange : wb.active < wb.size := by decide
  have loads : ∀ line ∈ lines, ¬ Loads line := by
    rw [List.forall_mem_cons, List.forall_mem_cons, List.forall_mem_singleton]
    refine ⟨?_, ?_, ?_⟩ <;> rintro ⟨name, parsed⟩ <;> cases parsed
  obtain ⟨after, left, -, kept, -⟩ :=
    active_unless_emptied (fun name => .error (.templateMissing name)) ctx rfl inRange lines loads
  cases left
  exact ⟨inRange, loads, _, rfl, rfl, (kept (List.cons_ne_nil _ _)).1⟩

/-- The only sheet may be deleted, and a row finds none to go into. -/
theorem no_sheet_after_deletion :
    let wb : Workbook := { sheets := [{ name := "A" }] }
    let ctx : Context := { reader := { lines := [] }, workbook := some wb }
    wb.active < wb.size ∧
      ctx.executeLine (fun name => .error (.templateMissing name)) "VrComout=XSSD NO=0" =
        (.ok (), { ctx with workbook := some { sheets := [] } }) ∧
      ((⟨[⟨"a", "A1", ""⟩]⟩ : Registry).bindRow { sheets := [] } ⟨[("a", "1")]⟩).1 =
        .error .noActiveSheet ∧
      Workbook.save { sheets := [] } = .ok Workbook.emptySaved ∧
      Workbook.emptySaved.sheets.map (·.name) = ["Sheet1"] := by
  refine ⟨by decide, rfl, rfl, rfl, rfl⟩

end Context

end ReportSheets
