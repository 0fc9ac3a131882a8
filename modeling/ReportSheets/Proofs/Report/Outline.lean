import Mathlib.Data.List.TakeWhile
import ReportSheets.Proofs.Data.Position

namespace ReportSheets

structure ReportSection where
  commands : List String
  data : List String
deriving DecidableEq

def ReportSection.lines (s : ReportSection) : List String :=
  startMarker :: (s.commands ++ endMarker :: s.data)

structure ReportOutline where
  sections : List ReportSection
  fault : Option Error
deriving DecidableEq

namespace ReportOutline

def cons (s : ReportSection) (outline : ReportOutline) : ReportOutline :=
  { outline with sections := s :: outline.sections }

def afterStart (lines : List String) : ReportOutline :=
  match _closed : lines.dropWhile (· != endMarker) with
  | [] => ⟨[], some .sectionNotClosed⟩
  | _ :: rest =>
    cons ⟨lines.takeWhile (· != endMarker), dataPart rest⟩ <|
      match _another : afterData rest with
      | [] => ⟨[], none⟩
      | _ :: more => afterStart more
termination_by lines.length
decreasing_by
  have shorter := (List.dropWhile_suffix (l := lines) (· != endMarker)).length_le
  have later := (List.dropWhile_suffix (l := rest) (· != startMarker)).length_le
  rw [_closed, List.length_cons] at shorter
  rw [← afterData, _another, List.length_cons] at later
  omega

def ofLines : List String → ReportOutline
  | [] => ⟨[], some .startMissing⟩
  | line :: lines =>
    if line = startMarker then afterStart lines else ⟨[], some (.startExpected 1 line)⟩

def ofText (text : String) : ReportOutline := ofLines (textLines text)

/-- After a `<start>` line no `<end>` line comes, or a section that is the last, or one that a
`<start>` line follows. -/
theorem afterStartInduction {motive : List String → Prop}
    (unclosed : ∀ lines, endMarker ∉ lines → motive lines)
    (last : ∀ commands data, endMarker ∉ commands → startMarker ∉ data →
      motive (commands ++ endMarker :: data))
    (another : ∀ commands data more, endMarker ∉ commands → startMarker ∉ data → motive more →
      motive (commands ++ endMarker :: (data ++ startMarker :: more)))
    (lines : List String) : motive lines := by
  by_cases closed : endMarker ∈ lines
  · obtain ⟨commands, rest, whole, inside⟩ := List.eq_append_cons_of_mem closed
    have parts := dataPart_append_afterData rest
    have data := start_not_mem_dataPart rest
    rcases afterData_cases rest with none | ⟨more, marker⟩
    · rw [none, List.append_nil] at parts
      rw [parts] at data
      rw [whole]
      exact last commands rest inside data
    · rw [marker] at parts
      have later := afterStartInduction unclosed last another more
      rw [whole, ← parts]
      exact another commands (dataPart rest) more inside data later
  · exact unclosed lines closed
termination_by lines.length
decreasing_by
  have size := congrArg List.length parts
  rw [marker] at size
  rw [whole]
  simp only [List.length_append, List.length_cons] at size ⊢
  omega

theorem afterStart_unclosed {lines : List String} (unclosed : endMarker ∉ lines) :
    afterStart lines = ⟨[], some .sectionNotClosed⟩ := by
  have none : lines.dropWhile (· != endMarker) = [] := by
    rw [List.dropWhile_eq_nil_iff]
    intro line member
    have other : line ≠ endMarker := fun same => unclosed (same ▸ member)
    simpa using other
  rw [afterStart]
  split
  · rfl
  · rename_i rest
    rw [none] at rest
    cases rest

theorem afterStart_closed {commands rest : List String} (inside : endMarker ∉ commands) :
    afterStart (commands ++ endMarker :: rest) =
      cons ⟨commands, dataPart rest⟩
        (match afterData rest with
        | [] => ⟨[], none⟩
        | _ :: more => afterStart more) := by
  have other : ∀ line ∈ commands, (line != endMarker) = true := by
    intro line member
    have other : line ≠ endMarker := fun same => inside (same ▸ member)
    simpa using other
  have taken : (commands ++ endMarker :: rest).takeWhile (· != endMarker) = commands := by
    rw [List.takeWhile_append_of_pos other]
    simp
  have left : (commands ++ endMarker :: rest).dropWhile (· != endMarker) = endMarker :: rest := by
    rw [List.dropWhile_append_of_pos other]
    simp
  rw [afterStart]
  split
  · rename_i dropped
    rw [left] at dropped
    cases dropped
  · rename_i line after dropped
    rw [left] at dropped
    cases dropped
    rw [taken]
    split <;> rename_i another <;> simp only [another]

theorem afterStart_last {commands data : List String} (inside : endMarker ∉ commands)
    (unmarked : startMarker ∉ data) :
    afterStart (commands ++ endMarker :: data) = cons ⟨commands, data⟩ ⟨[], none⟩ := by
  rw [afterStart_closed inside, dataPart_unmarked unmarked, afterData_unmarked unmarked]

theorem afterStart_another {commands data : List String} (more : List String)
    (inside : endMarker ∉ commands) (unmarked : startMarker ∉ data) :
    afterStart (commands ++ endMarker :: (data ++ startMarker :: more)) =
      cons ⟨commands, data⟩ (afterStart more) := by
  rw [afterStart_closed inside, dataPart_append_start unmarked, afterData_append_start unmarked]

/-- Sections that the whole text is cut into have all its lines. -/
theorem lines_afterStart (lines : List String) (whole : (afterStart lines).fault = none) :
    (afterStart lines).sections.flatMap ReportSection.lines = startMarker :: lines := by
  induction lines using afterStartInduction with
  | unclosed lines unclosed =>
    rw [afterStart_unclosed unclosed] at whole
    cases whole
  | last commands data inside unmarked =>
    rw [afterStart_last inside unmarked]
    exact List.append_nil _
  | another commands data more inside unmarked ih =>
    rw [afterStart_another more inside unmarked] at whole ⊢
    rw [cons, List.flatMap_cons, ih whole, ReportSection.lines]
    simp

theorem lines_ofLines (lines : List String) (whole : (ofLines lines).fault = none) :
    (ofLines lines).sections.flatMap ReportSection.lines = lines := by
  cases lines with
  | nil => cases whole
  | cons line lines =>
    by_cases marker : line = startMarker
    · rw [ofLines, if_pos marker] at whole ⊢
      rw [marker]
      exact lines_afterStart lines whole
    · rw [ofLines, if_neg marker] at whole
      cases whole

theorem kind_fault_afterStart (lines : List String) {e : Error}
    (faulty : (afterStart lines).fault = some e) : e.kind = .format := by
  induction lines using afterStartInduction with
  | unclosed lines unclosed =>
    rw [afterStart_unclosed unclosed] at faulty
    cases faulty
    rfl
  | last commands data inside unmarked =>
    rw [afterStart_last inside unmarked] at faulty
    cases faulty
  | another commands data more inside unmarked ih =>
    rw [afterStart_another more inside unmarked] at faulty
    exact ih faulty

theorem kind_fault_ofLines (lines : List String) {e : Error}
    (faulty : (ofLines lines).fault = some e) : e.kind = .format := by
  cases lines with
  | nil =>
    cases faulty
    rfl
  | cons line lines =>
    by_cases marker : line = startMarker
    · rw [ofLines, if_pos marker] at faulty
      exact kind_fault_afterStart lines faulty
    · rw [ofLines, if_neg marker] at faulty
      cases faulty
      rfl

end ReportOutline

end ReportSheets
