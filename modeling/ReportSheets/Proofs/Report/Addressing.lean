import ReportSheets.Proofs.Command.Written
import ReportSheets.Proofs.Report.SheetCommands
import ReportSheets.Proofs.Workbook.Names

namespace ReportSheets

open Text

/-- What a line carries of a name: the part before its first blank. -/
def carriedName (name : String) : String := String.ofList (upToBlank name.toList)

theorem carriedName_of_solid {name : String} (solid : Solid name.toList) :
    carriedName name = name := by
  rw [carriedName, upToBlank_of_solid solid, String.ofList_toList]

/-- A name that a line cannot carry whole is longer than what is carried. -/
theorem not_sameName_carriedName {name : String} (broken : ¬ Solid name.toList) :
    sameName name (carriedName name) = false := by
  refine Bool.eq_false_iff.mpr fun same => broken ?_
  have lengths := congrArg List.length (sameName_iff.mp same)
  rw [nameKey, nameKey, List.length_map, List.length_map, carriedName, String.toList_ofList] at lengths
  have whole : upToBlank name.toList = name.toList :=
    (List.takeWhile_prefix _).eq_of_length lengths.symm
  exact upToBlank_eq_self_iff.mp whole

/-- The words after the name do not count. -/
theorem SheetCommand.read_of_name (verb : SheetVerb) (name : List Char) :
    ∃ more, read (verb.name.toList ++ ' ' :: (SheetRef.nameMark ++ name)) =
      readParameters verb (SheetRef.nameMark ++ upToBlank name) more := by
  have solidVerb : Solid verb.name.toList := by cases verb <;> decide
  have solidMark : Solid SheetRef.nameMark := by decide
  have visible : verb.name.toList ≠ [] := by cases verb <;> decide
  obtain ⟨more, words⟩ := exists_words_append solidMark (by decide) name
  refine ⟨more, ?_⟩
  rw [read, words_append_blank solidVerb visible (by decide), words]
  simp only [String.ofList_toList, SheetVerb.named?_name]

namespace Command

theorem read_of_name (verb : SheetVerb) (name : List Char) :
    ∃ more, read (sheetsVerb.toList ++ '=' ::
        (verb.name.toList ++ ' ' :: (SheetRef.nameMark ++ name))) =
      (SheetCommand.readParameters verb (SheetRef.nameMark ++ upToBlank name) more).map
        .onSheets := by
  obtain ⟨more, words⟩ := SheetCommand.read_of_name verb name
  exact ⟨more, by rw [read_onSheets, words]⟩

theorem parse_activate (name : String) :
    parse ("VrComout=XSSA NAME=" ++ name) =
      .ok (.onSheets (.activate (.name (carriedName name)))) := by
  obtain ⟨more, words⟩ := read_of_name .activate name.toList
  rw [parse, String.toList_append]
  refine words.trans ?_
  rw [SheetCommand.readParameters, SheetRef.read_name]
  rfl

theorem parse_delete (name : String) :
    parse ("VrComout=XSSD NAME=" ++ name) =
      .ok (.onSheets (.delete (.name (carriedName name)))) := by
  obtain ⟨more, words⟩ := read_of_name .delete name.toList
  rw [parse, String.toList_append]
  refine words.trans ?_
  rw [SheetCommand.readParameters, SheetRef.read_name]
  rfl

end Command

namespace Workbook

variable {wb : Workbook} {name : String} {index : Nat}

theorem resolve_name (apart : wb.names.Pairwise fun a b => sameName a b = false) {other : String}
    (named : wb.names[index]? = some other) (same : sameName other name = true) :
    wb.resolve (.name name) = .ok index := by
  have found := (indexOf?_eq_some_iff (nodup_nameKey_iff.mpr apart)).mpr ⟨other, named, same⟩
  simp only [resolve, found]

theorem resolve_name_missing (missing : ∀ other ∈ wb.names, sameName other name = false) :
    wb.resolve (.name name) = .error (.sheetMissing (SheetRef.name name).text) := by
  simp only [resolve, indexOf?_eq_none_iff.mpr missing]

end Workbook

namespace Context

structure Addresses (template : String → Except Error Workbook) (ctx : Context) (wb : Workbook)
    (name : String) (index : Nat) : Prop where
  activates : ctx.executeLine template ("VrComout=XSSA NAME=" ++ name) =
    (.ok (), { ctx with workbook := some { wb with active := index } })
  deletes : ctx.executeLine template ("VrComout=XSSD NAME=" ++ name) =
    (.ok (), { ctx with
      workbook := some {
        sheets := wb.sheets.eraseIdx index
        active := Workbook.activeAfterRemoval wb.active index (wb.size - 1) } })

structure Misses (template : String → Except Error Workbook) (ctx : Context) (name : String) :
    Prop where
  activates : ctx.executeLine template ("VrComout=XSSA NAME=" ++ name) =
    (.error (.sheetMissing (SheetRef.name (carriedName name)).text), ctx)
  deletes : ctx.executeLine template ("VrComout=XSSD NAME=" ++ name) =
    (.error (.sheetMissing (SheetRef.name (carriedName name)).text), ctx)

variable {template : String → Except Error Workbook} {ctx : Context} {wb : Workbook}
  {name : String} {index : Nat}

theorem addresses_of_resolve (loaded : ctx.workbook = some wb)
    (resolved : wb.resolve (.name (carriedName name)) = .ok index) :
    ctx.Addresses template wb name index := by
  constructor
  · rw [executeLine_of_parse (Command.parse_activate name), execute,
      change_settle loaded (Editing.run_activateSheet _), Workbook.activateSheet_of_resolve resolved]
    rfl
  · rw [executeLine_of_parse (Command.parse_delete name), execute,
      change_settle loaded (Editing.run_deleteSheet _), Workbook.deleteSheet_of_resolve resolved]
    rfl

theorem misses_of_resolve_error (loaded : ctx.workbook = some wb)
    (missing : wb.resolve (.name (carriedName name)) =
      .error (.sheetMissing (SheetRef.name (carriedName name)).text)) :
    ctx.Misses template name := by
  have same : { ctx with workbook := some wb } = ctx := by
    rw [← loaded]
  constructor
  · rw [executeLine_of_parse (Command.parse_activate name), execute,
      change_settle loaded (Editing.run_activateSheet _), Workbook.activateSheet_of_resolve_error missing,
      Workbook.settle, same]
  · rw [executeLine_of_parse (Command.parse_delete name), execute,
      change_settle loaded (Editing.run_deleteSheet _), Workbook.deleteSheet_of_resolve_error missing,
      Workbook.settle, same]

/-- A sheet whose name has no blank is activated and deleted by its name. With a blank in the name
the lines act on the sheet, another one, that is called like the part before it, and without such a
sheet on none. -/
theorem addresses_by_name (template : String → Except Error Workbook) (ctx : Context)
    (loaded : ctx.workbook = some wb) (apart : wb.names.Pairwise fun a b => sameName a b = false)
    (named : wb.names[index]? = some name) :
    (Solid name.toList → ctx.Addresses template wb name index) ∧
      (¬ Solid name.toList →
        (∃ other otherName, other ≠ index ∧ wb.names[other]? = some otherName ∧
          sameName otherName (carriedName name) = true ∧ ctx.Addresses template wb name other) ∨
        (∀ otherName ∈ wb.names, sameName otherName (carriedName name) = false) ∧
          ctx.Misses template name) := by
  constructor
  · intro solid
    have same : sameName name (carriedName name) = true := by
      rw [carriedName_of_solid solid]
      exact sameName_iff.mpr rfl
    exact addresses_of_resolve loaded (Workbook.resolve_name apart named same)
  · intro broken
    by_cases called : ∃ otherName ∈ wb.names, sameName otherName (carriedName name) = true
    · obtain ⟨otherName, among, same⟩ := called
      obtain ⟨other, otherNamed⟩ := List.mem_iff_getElem?.mp among
      refine .inl ⟨other, otherName, ?_, otherNamed, same,
        addresses_of_resolve loaded (Workbook.resolve_name apart otherNamed same)⟩
      rintro rfl
      rw [named, Option.some.injEq] at otherNamed
      subst otherNamed
      rw [not_sameName_carriedName broken] at same
      cases same
    · have missing : ∀ otherName ∈ wb.names, sameName otherName (carriedName name) = false := by
        intro otherName among
        exact Bool.eq_false_iff.mpr fun same => called ⟨otherName, among, same⟩
      exact .inr ⟨missing, misses_of_resolve_error loaded (Workbook.resolve_name_missing missing)⟩

theorem addresses_by_name_of_copy :
    let template : String → Except Error Workbook := fun name => .error (.templateMissing name)
    let wb : Workbook := { sheets := [{ name := "Cover" }, { name := "Cover (2)" }] }
    let ctx : Context := { reader := { lines := [] }, workbook := some wb }
    (wb.names.Pairwise fun a b => sameName a b = false) ∧
      wb.names[0]? = some "Cover" ∧ ctx.Addresses template wb "Cover" 0 ∧
      wb.names[1]? = some "Cover (2)" ∧
      ∃ other, other ≠ 1 ∧ ctx.Addresses template wb "Cover (2)" other := by
  intro template wb ctx
  have apart : wb.names.Pairwise fun a b => sameName a b = false := by decide
  have first : wb.names[0]? = some "Cover" := rfl
  have second : wb.names[1]? = some "Cover (2)" := rfl
  have cover := addresses_by_name template ctx rfl apart first
  have copy := addresses_by_name template ctx rfl apart second
  refine ⟨apart, first, cover.1 (by decide), second, ?_⟩
  rcases copy.2 (by decide) with ⟨other, -, different, -, -, addresses⟩ | ⟨missing, -⟩
  · exact ⟨other, different, addresses⟩
  · exact absurd (missing "Cover" (by decide)) (by decide)

/-- The lines with the name of the copy activate and delete the sheet that was copied. -/
theorem original_addressed_for_copy :
    let template : String → Except Error Workbook := fun name => .error (.templateMissing name)
    let wb : Workbook := { sheets := [{ name := "Cover" }, { name := "Cover (2)" }], active := 1 }
    let ctx : Context := { reader := { lines := [] }, workbook := some wb }
    (∀ name ∈ wb.names, nameFault? name = none) ∧
      (wb.names.Pairwise fun a b => sameName a b = false) ∧
      ctx.executeLine template "VrComout=XSSA NAME=Cover (2)" =
        (.ok (), { ctx with workbook := some { wb with active := 0 } }) ∧
      ctx.executeLine template "VrComout=XSSD NAME=Cover (2)" =
        (.ok (), { ctx with workbook := some { sheets := [{ name := "Cover (2)" }] } }) := by
  refine ⟨by decide, by decide, rfl, rfl⟩

end Context

end ReportSheets
