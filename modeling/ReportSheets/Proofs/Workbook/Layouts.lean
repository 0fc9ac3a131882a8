import ReportSheets.Proofs.Outcome
import ReportSheets.Proofs.Sheet.SortedMap
import ReportSheets.Proofs.Workbook.Columns

namespace ReportSheets

def MergedRange.isWide (range : MergedRange) : Bool := range.first != range.last

namespace Layout

variable {layout saved : Layout} {before ranges merged : List MergedRange}

theorem saveMerges_isWide :
    saveMerges before (ranges.filter MergedRange.isWide) = saveMerges before ranges := by
  induction ranges generalizing before with
  | nil => rfl
  | cons range ranges ih =>
    by_cases single : range.first = range.last
    · have narrow : range.isWide = false := by simp [MergedRange.isWide, single]
      rw [List.filter_cons_of_neg (by simp [narrow]), saveMerges, if_pos single, ih]
    · have wide : range.isWide = true := by simp [MergedRange.isWide, single]
      rw [List.filter_cons_of_pos wide, saveMerges, saveMerges]
      simp only [ih]

theorem eq_of_saveMerges (done : saveMerges before ranges = .ok merged) :
    merged = before ++ ranges.filter MergedRange.isWide := by
  induction ranges generalizing before with
  | nil =>
    cases done
    simp
  | cons range ranges ih =>
    rw [saveMerges] at done
    split at done
    · rename_i single
      have narrow : range.isWide = false := by simp [MergedRange.isWide, single]
      rw [List.filter_cons_of_neg (by simp [narrow]), ih done]
    · rename_i several
      have wide : range.isWide = true := by simp [MergedRange.isWide, several]
      split at done
      · cases done
      · split at done
        · cases done
        · split at done
          · cases done
          · rw [List.filter_cons_of_pos wide, ih done, List.append_assoc, List.singleton_append]

theorem inBounds_of_saveMerges (done : saveMerges before ranges = .ok merged)
    (each : ∀ r ∈ before, r.first.InBounds ∧ r.last.InBounds) :
    ∀ r ∈ merged, r.first.InBounds ∧ r.last.InBounds := by
  induction ranges generalizing before with
  | nil =>
    cases done
    exact each
  | cons range ranges ih =>
    rw [saveMerges] at done
    split at done
    · exact ih done each
    · split at done
      · cases done
      · rename_i inBounds
        split at done
        · cases done
        · split at done
          · cases done
          · refine ih done (List.forall_mem_append.mpr ⟨each, ?_⟩)
            exact List.forall_mem_singleton.mpr (not_not.mp inBounds)

theorem checkRows_eq_ok_iff {rows : List (Nat × Binary64)} :
    checkRows rows = .ok () ↔ ∀ e ∈ rows, e.1 ≤ CellAddress.maxRow := by
  rw [checkRows]
  split
  · rename_i beyond
    obtain ⟨e, member, far⟩ := List.any_eq_true.mp beyond
    have far : CellAddress.maxRow < e.1 := of_decide_eq_true far
    exact iff_of_false (by simp) fun within => Nat.not_lt.mpr (within e member) far
  · rename_i within
    refine iff_of_true rfl fun e member => Nat.not_lt.mp fun far => ?_
    exact within (List.any_eq_true.mpr ⟨e, member, decide_eq_true far⟩)

theorem checkRows_filterValues {heights : SortedMap Nat Binary64} {p : Binary64 → Bool}
    (fits : checkRows heights.entries = .ok ()) :
    checkRows (heights.filterValues p).entries = .ok () := by
  rw [checkRows_eq_ok_iff] at fits ⊢
  intro e member
  exact fits e (List.mem_of_mem_filter member)

/-- A layout is refused for its columns, its rows or its merged ranges, and else loses what a file
does not hold. -/
theorem save_eq_ok_iff :
    layout.save = .ok saved ↔
      (checkColumns layout.columns = .ok () ∧ checkRows layout.rowHeights.entries = .ok () ∧
        saveMerges [] layout.merged = .ok saved.merged) ∧
      saved.columns = savedColumns layout.columns ∧
      saved.rowHeights = layout.rowHeights.filterValues isKept := by
  constructor
  · intro done
    obtain ⟨⟨⟩, columns, done⟩ := of_bind_ok done
    obtain ⟨⟨⟩, rows, done⟩ := of_bind_ok done
    obtain ⟨merged, merges, done⟩ := of_bind_ok done
    have held := (Except.ok.inj done).symm
    subst held
    refine ⟨⟨columns, rows, ?_⟩, ?_, ?_⟩ <;> dsimp only
    exact merges
  · rintro ⟨⟨columns, rows, merges⟩, widths, heights⟩
    obtain ⟨merged, widths', heights'⟩ := saved
    dsimp only at merges widths heights
    unfold save
    rw [columns, rows, merges, widths, heights]
    generalize savedColumns layout.columns = given
    rfl

theorem merged_of_save (done : layout.save = .ok saved) :
    saved.merged = layout.merged.filter MergedRange.isWide :=
  eq_of_saveMerges (save_eq_ok_iff.1 done).1.2.2

theorem save_of_save (done : layout.save = .ok saved) : saved.save = .ok saved := by
  have merged := merged_of_save done
  obtain ⟨⟨columns, rows, merges⟩, widths, heights⟩ := save_eq_ok_iff.1 done
  refine save_eq_ok_iff.2 ⟨⟨?_, ?_, ?_⟩, ?_, ?_⟩
  · rw [widths]
    exact checkColumns_savedColumns
  · rw [heights]
    exact checkRows_filterValues rows
  · calc saveMerges [] saved.merged
        = saveMerges [] layout.merged := by rw [merged, saveMerges_isWide]
      _ = .ok saved.merged := merges
  · rw [widths, savedColumns_savedColumns]
  · rw [heights, SortedMap.filterValues_filterValues]

end Layout

end ReportSheets
