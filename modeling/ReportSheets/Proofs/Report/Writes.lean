import Mathlib.Data.List.Forall2
import ReportSheets.Proofs.Report.Binding

namespace ReportSheets

structure CellWrite where
  address : CellAddress
  text : String
deriving DecidableEq

namespace CellWrite

def lastText? (writes : List CellWrite) (address : CellAddress) : Option String :=
  (writes.filter fun write => write.address = address).getLast?.map (·.text)

theorem lastText?_append (earlier later : List CellWrite) (address : CellAddress) :
    lastText? (earlier ++ later) address =
      (lastText? later address).or (lastText? earlier address) := by
  rw [lastText?, List.filter_append, List.getLast?_append, Option.map_or]
  rfl

theorem lastText?_singleton (write : CellWrite) (address : CellAddress) :
    lastText? [write] address = if write.address = address then some write.text else none := by
  by_cases here : write.address = address <;> simp [lastText?, here]

end CellWrite

variable {earlier later writes : List CellWrite}

structure Sheet.Overlaid (sheet : Sheet) (writes : List CellWrite) (after : Sheet) : Prop where
  name : after.name = sheet.name
  layout : after.layout = sheet.layout
  cells : ∀ address, after.cell? address =
    ((CellWrite.lastText? writes address).map CellValue.text).or (sheet.cell? address)

namespace Sheet.Overlaid

variable {sheet mid after : Sheet}

theorem refl (sheet : Sheet) : sheet.Overlaid [] sheet := ⟨rfl, rfl, fun _ => rfl⟩

theorem setCell (sheet : Sheet) (write : CellWrite) :
    sheet.Overlaid [write] (sheet.setCell write.address (.text write.text)) := by
  refine ⟨rfl, rfl, ?_⟩
  intro address
  rw [CellWrite.lastText?_singleton, cell?, Sheet.setCell, SortedMap.get?_insert]
  split <;> rfl

theorem trans (first : sheet.Overlaid earlier mid) (second : mid.Overlaid later after) :
    sheet.Overlaid (earlier ++ later) after := by
  refine ⟨second.name.trans first.name, second.layout.trans first.layout, ?_⟩
  intro address
  rw [second.cells, first.cells, CellWrite.lastText?_append, Option.map_or, Option.or_assoc]

end Sheet.Overlaid

/-- The workbook with the writes over its active sheet. Without an active sheet nothing is written. -/
structure Workbook.Overlaid (wb : Workbook) (writes : List CellWrite) (after : Workbook) : Prop where
  active : after.active = wb.active
  others : ∀ index, index ≠ wb.active → after.sheets[index]? = wb.sheets[index]?
  sheet : ∀ sheet, wb.activeSheet? = some sheet →
    ∃ filled, after.activeSheet? = some filled ∧ sheet.Overlaid writes filled
  missing : wb.activeSheet? = none → writes = [] ∧ after = wb

namespace Workbook.Overlaid

variable {wb mid after : Workbook}

theorem refl (wb : Workbook) : wb.Overlaid [] wb :=
  ⟨rfl, fun _ _ => rfl, fun sheet found => ⟨sheet, found, .refl sheet⟩, fun _ => ⟨rfl, rfl⟩⟩

theorem trans (first : wb.Overlaid earlier mid) (second : mid.Overlaid later after) :
    wb.Overlaid (earlier ++ later) after := by
  refine ⟨second.active.trans first.active, ?_, ?_, ?_⟩
  · intro index other
    have stillOther : index ≠ mid.active := first.active ▸ other
    rw [second.others index stillOther, first.others index other]
  · intro sheet found
    obtain ⟨between, foundBetween, before⟩ := first.sheet sheet found
    obtain ⟨filled, foundFilled, behind⟩ := second.sheet between foundBetween
    exact ⟨filled, foundFilled, before.trans behind⟩
  · intro none
    obtain ⟨rfl, rfl⟩ := first.missing none
    exact second.missing none

theorem of_setText {write : CellWrite}
    (done : wb.setText write.address write.text = .ok after) : wb.Overlaid [write] after := by
  unfold setText at done
  split at done
  · rename_i sheet found
    cases done
    have inside : wb.active < wb.sheets.length := (List.getElem?_eq_some_iff.mp found).1
    refine ⟨rfl, ?_, ?_, by simp [found]⟩
    · intro index other
      exact List.getElem?_set_ne (Ne.symm other)
    · intro sheet' found'
      rw [found, Option.some.injEq] at found'
      subst found'
      exact ⟨_, List.getElem?_set_self inside, .setCell sheet write⟩
  · cases done

end Workbook.Overlaid

structure FieldValue where
  field : Field
  value : String

def Registry.fieldValues (registry : Registry) (columns : List (String × String)) :
    List FieldValue :=
  columns.filterMap fun (column, value) => (registry.get? column).map fun field => ⟨field, value⟩

def Registry.valuesOf (registry : Registry) (rows : List DataRow) : List FieldValue :=
  rows.flatMap fun row => registry.fieldValues row.columns

structure FieldValue.Writes (entry : FieldValue) (write : CellWrite) : Prop where
  text : entry.field.cellText entry.value = .ok write.text
  address : entry.field.address = .ok write.address

namespace Workbook

inductive Refuses (wb : Workbook) (entry : FieldValue) : Error → Prop
  | formula {e : Error} (failed : entry.field.cellText entry.value = .error e) : Refuses wb entry e
  | location {text : String} {e : Error} (given : entry.field.cellText entry.value = .ok text)
      (failed : entry.field.address = .error e) : Refuses wb entry e
  | sheet {write : CellWrite} (writes : entry.Writes write) (missing : wb.activeSheet? = none) :
      Refuses wb entry .noActiveSheet

/-- All values are written, or those before the first that is refused. -/
inductive Fills (wb : Workbook) (entries : List FieldValue) : Except Error Unit → Workbook → Prop
  | all {writes : List CellWrite} {after : Workbook}
      (each : List.Forall₂ FieldValue.Writes entries writes) (overlaid : wb.Overlaid writes after) :
      Fills wb entries (.ok ()) after
  | refused {written left : List FieldValue} {entry : FieldValue} {writes : List CellWrite}
      {after : Workbook} {e : Error} (split : entries = written ++ entry :: left)
      (each : List.Forall₂ FieldValue.Writes written writes) (overlaid : wb.Overlaid writes after)
      (refuses : after.Refuses entry e) : Fills wb entries (.error e) after

variable {wb mid after : Workbook} {field : Field} {value : String} {entries more : List FieldValue}
  {answer : Except Error Unit} {e : Error}

theorem overlaid_of_fill (done : wb.fill field value = .ok after) :
    ∃ write, FieldValue.Writes ⟨field, value⟩ write ∧ wb.Overlaid [write] after := by
  unfold fill at done
  cases given : field.cellText value with
  | error e =>
    rw [given] at done
    cases done
  | ok text =>
    cases located : field.address with
    | error e =>
      rw [given, located] at done
      cases done
    | ok address =>
      rw [given, located] at done
      exact ⟨⟨address, text⟩, ⟨given, located⟩, .of_setText done⟩

theorem refuses_of_fill (failed : wb.fill field value = .error e) :
    wb.Refuses ⟨field, value⟩ e := by
  unfold fill at failed
  cases given : field.cellText value with
  | error e' =>
    rw [given] at failed
    cases failed
    exact .formula given
  | ok text =>
    cases located : field.address with
    | error e' =>
      rw [given, located] at failed
      cases failed
      exact .location given located
    | ok address =>
      rw [given, located] at failed
      have unset : wb.setText address text = .error e := failed
      unfold setText at unset
      split at unset
      · cases unset
      · rename_i missing
        cases unset
        have writes : FieldValue.Writes ⟨field, value⟩ ⟨address, text⟩ := ⟨given, located⟩
        exact .sheet writes missing

theorem not_refuses {entry : FieldValue} {write : CellWrite} (writes : entry.Writes write)
    (active : wb.activeSheet? ≠ none) : ¬ wb.Refuses entry e := by
  intro refuses
  cases refuses with
  | formula failed => cases writes.text.symm.trans failed
  | location given failed => cases writes.address.symm.trans failed
  | sheet _ missing => exact active missing

namespace Fills

/-- With an active sheet only formulas and locations can be in the way. -/
theorem ok_of_writable (fills : wb.Fills entries answer after) (active : wb.activeSheet? ≠ none)
    (writable : ∀ entry ∈ entries, ∃ write, entry.Writes write) : answer = .ok () := by
  cases fills with
  | all each overlaid => rfl
  | @refused written left entry writes after e split each overlaid refuses =>
    obtain ⟨sheet, found⟩ := Option.ne_none_iff_exists'.mp active
    obtain ⟨filled, stillFound, -⟩ := overlaid.sheet sheet found
    obtain ⟨write, writes⟩ := writable entry (by simp [split])
    exact absurd refuses (not_refuses writes (by simp [stillFound]))

theorem nil (wb : Workbook) : wb.Fills [] (.ok ()) wb := .all .nil (.refl wb)

theorem append (first : wb.Fills entries (.ok ()) mid) (second : mid.Fills more answer after) :
    wb.Fills (entries ++ more) answer after := by
  cases first with
  | all eachFirst overlaidFirst =>
    cases second with
    | all each overlaid =>
      exact .all (List.rel_append eachFirst each) (overlaidFirst.trans overlaid)
    | @refused written left entry writes after e split each overlaid refuses =>
      have splitAll : entries ++ more = (entries ++ written) ++ entry :: left := by
        rw [split, List.append_assoc]
      exact .refused splitAll (List.rel_append eachFirst each) (overlaidFirst.trans overlaid) refuses

theorem refused_append (stopped : wb.Fills entries (.error e) after) (more : List FieldValue) :
    wb.Fills (entries ++ more) (.error e) after := by
  cases stopped with
  | @refused written left entry writes after e split each overlaid refuses =>
    have splitMore : entries ++ more = written ++ entry :: (left ++ more) := by
      rw [split, List.append_assoc, List.cons_append]
    exact .refused splitMore each overlaid refuses

theorem of_fill (done : wb.fill field value = .ok after) :
    wb.Fills [⟨field, value⟩] (.ok ()) after := by
  obtain ⟨write, writes, overlaid⟩ := overlaid_of_fill done
  exact .all (.cons writes .nil) overlaid

theorem of_fill_error (failed : wb.fill field value = .error e) :
    wb.Fills [⟨field, value⟩] (.error e) wb :=
  .refused (List.nil_append _).symm .nil (.refl wb) (refuses_of_fill failed)

end Fills

end Workbook

namespace Registry

variable {registry : Registry} {name value : String} {field : Field}
  {columns : List (String × String)}

theorem fieldValues_cons_none (unknown : registry.get? name = none) :
    registry.fieldValues ((name, value) :: columns) = registry.fieldValues columns := by
  simp [fieldValues, unknown]

theorem fieldValues_cons_some (registered : registry.get? name = some field) :
    registry.fieldValues ((name, value) :: columns) =
      [⟨field, value⟩] ++ registry.fieldValues columns := by
  simp [fieldValues, registered]

theorem valuesOf_cons (row : DataRow) (rows : List DataRow) :
    registry.valuesOf (row :: rows) =
      registry.fieldValues row.columns ++ registry.valuesOf rows := List.flatMap_cons

theorem fills_bindColumns (registry : Registry) (wb : Workbook)
    (columns : List (String × String)) :
    wb.Fills (registry.fieldValues columns) ((registry.bindColumns wb columns).1.map fun _ => ())
      (registry.bindColumns wb columns).2 := by
  induction columns generalizing wb with
  | nil => exact .nil wb
  | cons column more ih =>
    obtain ⟨name, value⟩ := column
    cases registered : registry.get? name with
    | none =>
      rw [fieldValues_cons_none registered]
      simp only [bindColumns, registered]
      exact ih wb
    | some field =>
      rw [fieldValues_cons_some registered]
      cases filled : wb.fill field value with
      | error e =>
        simp only [bindColumns, registered, filled]
        exact (Workbook.Fills.of_fill_error filled).refused_append _
      | ok mid =>
        have fills := (Workbook.Fills.of_fill filled).append (ih mid)
        rcases rest : registry.bindColumns mid more with ⟨answer, after⟩
        rw [rest] at fills
        simp only [bindColumns, registered, filled, rest]
        cases answer <;> exact fills

end Registry

namespace DataSection.Gives

variable {s : DataSection} {r : Reader} {rows : List DataRow} {behind : Nat} {ahead : List String}

/-- Rows from the reader are filled in one after the other; once all are, the section is at its end. -/
theorem fills_bindRows (registry : Registry) (wb : Workbook)
    (gives : s.Gives Csv.tokenize r rows behind ahead) :
    ∃ answer after r', registry.bindRows wb s r = (answer, after, r') ∧
      wb.Fills (registry.valuesOf rows) (answer.map fun _ => ()) after ∧
      ∀ s', answer = .ok s' → s'.Gives Csv.tokenize r' [] behind ahead := by
  induction rows generalizing wb r with
  | nil =>
    obtain ⟨r', step, stands⟩ := gives.next_ended Csv.Tokenizer.total_tokenize
    refine ⟨_, wb, r', Registry.bindRows_ended step, .nil wb, ?_⟩
    rintro s' ⟨⟩
    exact .ended stands rfl
  | cons row rows ih =>
    obtain ⟨r', step, later⟩ := gives.next_row Csv.Tokenizer.total_tokenize
    have fills := registry.fills_bindColumns wb row.columns
    rw [Registry.valuesOf_cons]
    rcases bound : registry.bindRow wb row with ⟨answer, next⟩
    rw [← Registry.bindRow, bound] at fills
    cases answer with
    | error e =>
      refine ⟨_, next, r', Registry.bindRows_refused step bound, fills.refused_append _, ?_⟩
      rintro s' ⟨⟩
    | ok written =>
      obtain ⟨answer, after, last, given, more, ended⟩ := ih next later
      rw [Registry.bindRows_bound step bound]
      exact ⟨answer, after, last, given, fills.append more, ended⟩

end DataSection.Gives

namespace Context

variable {σ : Type} {forms : FieldSource σ} {state state' : σ} {formFile : String}
  {registry : Registry} {registries : RegistryCache} {wb : Workbook} {behind : Nat}
  {lines : List String}

theorem fills_bindWith (registry : Registry) (ctx : Context) (loaded : ctx.workbook = some wb)
    (stands : ctx.reader.StandsAt behind lines) :
    ∃ answer after reader,
      ctx.bindWith registry = (answer, { ctx with workbook := some after, reader }) ∧
      wb.Fills (registry.valuesOf (rowsOf Csv.tokenize (dataPart lines)))
        (answer.map fun _ => ()) after ∧
      ∀ more, answer = .ok more → more = !(afterData lines).isEmpty ∧
        reader.StandsAt (behind + (dataPart lines).length) (afterData lines) := by
  obtain ⟨s, begun, opened, -, gives⟩ := stands.dataSectionBy Csv.Tokenizer.total_tokenize
  obtain ⟨answer, after, midway, rows, fills, ended⟩ := gives.fills_bindRows registry wb
  simp only [bindWith, loaded, Reader.dataSection, opened, bindBody, rows]
  cases answer with
  | error e =>
    refine ⟨.error e, after, midway, rfl, fills, ?_⟩
    rintro more ⟨⟩
  | ok s' =>
    obtain ⟨last, finished, left⟩ := (ended s' rfl).finish
    simp only [finished]
    refine ⟨_, after, last, rfl, fills, ?_⟩
    rintro more ⟨⟩
    exact ⟨rfl, left⟩

/-- With a form and a workbook, binding writes the registered columns of the section's rows, all of
them or those before the first that is refused. The rest of the context is the cache with the form
and the reader, which stands after the section's rows when all went well. -/
theorem bindSection_fills (ctx : Context) (chosen : ctx.formFile = some formFile)
    (loads : ctx.registries.getOrLoad forms formFile state = (.ok registry, registries, state'))
    (loaded : ctx.workbook = some wb) (stands : ctx.reader.StandsAt behind lines) :
    ∃ answer after reader,
      ctx.bindSection forms state =
        (answer, { ctx with registries, workbook := some after, reader }, state') ∧
      wb.Fills (registry.valuesOf (rowsOf Csv.tokenize (dataPart lines)))
        (answer.map fun _ => ()) after ∧
      ∀ more, answer = .ok more → (more = true ↔ ∃ rest, afterData lines = startMarker :: rest) ∧
        reader.StandsAt (behind + (dataPart lines).length) (afterData lines) := by
  obtain ⟨reader, formFile, mode, workbook, cache⟩ := ctx
  cases chosen
  cases loaded
  obtain ⟨answer, after, reader', given, fills, ended⟩ :=
    fills_bindWith registry ⟨reader, some formFile, mode, some wb, registries⟩ rfl stands
  refine ⟨answer, after, reader', ?_, fills, ?_⟩
  · simp only [bindSection, loads, given]
  · intro more done
    obtain ⟨rfl, left⟩ := ended more done
    refine ⟨?_, left⟩
    rcases afterData_cases lines with empty | ⟨rest, follows⟩
    · simp [empty]
    · simp [follows]

/-- Of two columns that go into one cell the later one stays, as its formula shows it. -/
theorem bindSection_fills_of_shared_cell :
    let forms : FieldSource Unit :=
      ⟨fun _ state => (.ok [⟨"a", "A1", ""⟩, ⟨"b", "A1", "FORMAT(WYEAR(CTOD(b)),\"99\")"⟩], state)⟩
    ∃ after : Workbook,
      (bindSection forms
        ⟨.ofText "a,b\n1,2025/04/07\n", some "f", 0, some ⟨[⟨"S", .empty, {}⟩], 0⟩, .empty⟩
        ()).2.1.workbook = some after ∧ after.activeText? ⟨0, 0⟩ = some "07" := by
  intro forms
  let first : Field := ⟨"a", "A1", ""⟩
  let second : Field := ⟨"b", "A1", "FORMAT(WYEAR(CTOD(b)),\"99\")"⟩
  have loads : RegistryCache.empty.getOrLoad forms "f" () =
      (.ok ⟨[first, second]⟩, ⟨[("f", ⟨[first, second]⟩)]⟩, ()) := rfl
  obtain ⟨answer, after, reader, given, fills, -⟩ :=
    bindSection_fills
      ⟨.ofText "a,b\n1,2025/04/07\n", some "f", 0, some ⟨[⟨"S", .empty, {}⟩], 0⟩, .empty⟩
      rfl loads rfl (Reader.standsAt_ofText "a,b\n1,2025/04/07\n")
  refine ⟨after, congrArg (·.2.1.workbook) given, ?_⟩
  have entries : (⟨[first, second]⟩ : Registry).valuesOf
      (rowsOf Csv.tokenize (dataPart (textLines "a,b\n1,2025/04/07\n"))) =
        [⟨first, "1"⟩, ⟨second, "2025/04/07"⟩] := by rfl
  have located : CellAddress.parse "A1" = .ok ⟨0, 0⟩ := by rfl
  have shown : second.cellText "2025/04/07" = .ok "07" := by decide +kernel
  rw [entries] at fills
  have writable : ∀ entry ∈ [(⟨first, "1"⟩ : FieldValue), ⟨second, "2025/04/07"⟩],
      ∃ write, entry.Writes write := by
    intro entry member
    rcases List.mem_pair.mp member with rfl | rfl
    · exact ⟨⟨⟨0, 0⟩, "1"⟩, rfl, located⟩
    · exact ⟨⟨⟨0, 0⟩, "07"⟩, shown, located⟩
  rw [fills.ok_of_writable (by simp [Workbook.activeSheet?]) writable] at fills
  cases fills with
  | all each overlaid =>
    rcases each with _ | @⟨_, one, _, _, -, _ | @⟨_, other, _, _, writes, ⟨⟩⟩⟩
    obtain ⟨filled, found, overlaidSheet⟩ := overlaid.sheet _ rfl
    obtain ⟨address, text⟩ := other
    cases located.symm.trans writes.address
    have same : "07" = text := Except.ok.inj (shown.symm.trans writes.text)
    have last : CellWrite.lastText? ([one] ++ [⟨⟨0, 0⟩, text⟩]) ⟨0, 0⟩ = some "07" := by
      rw [CellWrite.lastText?_append, CellWrite.lastText?_singleton, if_pos rfl, same]
      rfl
    have cell := overlaidSheet.cells ⟨0, 0⟩
    rw [← List.singleton_append, last] at cell
    rw [Workbook.activeText?, found, Option.bind_some, cell]
    rfl

end Context

end ReportSheets
