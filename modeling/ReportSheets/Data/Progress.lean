import ReportSheets.Data.Reader

namespace ReportSheets

namespace Reader

def remaining (r : Reader) : Nat := r.lines.length + if r.held then 1 else 0

theorem remaining_next_le (r : Reader) : r.next.2.remaining ≤ r.remaining := by
  obtain ⟨lines, held, number⟩ := r
  cases held
  · rcases lines with _ | ⟨_ | _, rest⟩ <;> simp [next, remaining]
  · simp [next, remaining]

theorem remaining_next {r r' : Reader} {line : String} (h : r.next = (.ok (some line), r')) :
    r'.remaining < r.remaining ∧ r'.held = false := by
  obtain ⟨lines, held, number⟩ := r
  cases held
  · rcases lines with _ | ⟨_ | _, rest⟩ <;> simp [next] at h
    obtain ⟨-, rfl⟩ := h
    simp [remaining]
  · simp [next] at h
    obtain ⟨-, rfl⟩ := h
    simp [remaining]

theorem remaining_commandLines (number : Nat) (lines : List RawLine) :
    (commandLines number lines).2.remaining ≤ lines.length := by
  induction lines generalizing number with
  | nil => simp [commandLines, remaining]
  | cons line rest ih =>
    cases line with
    | notUtf8 => simp [commandLines, remaining]
    | utf8 line =>
      have bound := ih (number + 1)
      simp only [commandLines]
      split
      · simp [remaining]
      · simp only [List.length_cons]
        omega

theorem remaining_functionSection {r r' : Reader} {commands : List String}
    (h : r.functionSection = (.ok commands, r')) : r'.remaining < r.remaining := by
  unfold functionSection at h
  split at h
  · simp at h
  · simp at h
  · rename_i line reader step
    obtain ⟨shorter, free⟩ := remaining_next step
    split at h
    · have bound := remaining_commandLines reader.lineNumber reader.lines
      rw [h] at bound
      simp only [remaining, free] at shorter
      simp only at bound
      simp only [Bool.false_eq_true, if_false, Nat.add_zero] at shorter
      simp only [remaining] at *
      omega
    · simp at h

theorem remaining_dataSectionBy (tokenize : Csv.Tokenizer) (r : Reader) :
    (r.dataSectionBy tokenize).2.remaining ≤ r.remaining := by
  have bound := remaining_next_le r
  unfold dataSectionBy
  split
  · rename_i step
    simpa only [step] using bound
  · rename_i step
    simpa only [step] using bound
  · rename_i step
    obtain ⟨shorter, free⟩ := remaining_next step
    split
    · simp only [remaining, free] at *
      simp only [Bool.false_eq_true, if_false, if_true] at *
      omega
    · split
      · exact Nat.le_of_lt shorter
      · exact Nat.le_of_lt shorter

theorem remaining_dataSection (r : Reader) : r.dataSection.2.remaining ≤ r.remaining :=
  remaining_dataSectionBy Csv.tokenize r

theorem remaining_nextRowBy (tokenize : Csv.Tokenizer) (header : List String) (number : Nat)
    (lines : List RawLine) :
    (nextRowBy tokenize header number lines).2.remaining ≤ lines.length := by
  induction lines generalizing number with
  | nil => simp [nextRowBy, remaining]
  | cons line rest ih =>
    cases line with
    | notUtf8 => simp [nextRowBy, remaining]
    | utf8 line =>
      have bound := ih (number + 1)
      simp only [nextRowBy]
      split
      · simp [remaining]
      · split
        · simp [remaining]
        · exact Nat.le_succ_of_le bound
        · exact Nat.le_succ_of_le bound

theorem remaining_nextRowBy_row {tokenize : Csv.Tokenizer} {header : List String} {number : Nat}
    {lines : List RawLine} {row : DataRow} {r : Reader}
    (h : nextRowBy tokenize header number lines = (.row row, r)) : r.remaining < lines.length := by
  induction lines generalizing number with
  | nil => simp [nextRowBy] at h
  | cons line rest ih =>
    cases line with
    | notUtf8 => simp [nextRowBy] at h
    | utf8 line =>
      simp only [nextRowBy] at h
      split at h
      · simp at h
      · split at h
        · simp only [Prod.mk.injEq] at h
          rw [← h.2]
          simp [remaining]
        · exact Nat.lt_succ_of_lt (ih h)
        · exact Nat.lt_succ_of_lt (ih h)

theorem remaining_skipRows (number : Nat) (lines : List RawLine) :
    (skipRows number lines).2.remaining ≤ lines.length := by
  induction lines generalizing number with
  | nil => simp [skipRows, remaining]
  | cons line rest ih =>
    cases line with
    | notUtf8 => simp [skipRows, remaining]
    | utf8 line =>
      have bound := ih (number + 1)
      simp only [skipRows]
      split
      · simp [remaining]
      · simp only [List.length_cons]
        omega

end Reader

namespace DataSection

theorem remaining_next_le (s : DataSection) (r : Reader) :
    (s.next r).2.2.remaining ≤ r.remaining := by
  unfold next nextBy
  split
  · exact Nat.le_refl _
  · split
    · exact Nat.le_refl _
    · have bound := Reader.remaining_nextRowBy Csv.tokenize s.header r.lineNumber r.lines
      split <;> rename_i step <;> rw [step] at bound <;>
        exact Nat.le_trans bound (Nat.le_add_right _ _)

theorem remaining_next {s s' : DataSection} {r r' : Reader} {row : DataRow}
    (h : s.next r = (some (.ok row), s', r')) : r'.remaining < r.remaining := by
  unfold next nextBy at h
  split at h
  · simp at h
  · split at h
    · simp at h
    · split at h
      · rename_i step
        simp only [Prod.mk.injEq] at h
        obtain ⟨-, -, rfl⟩ := h
        exact Nat.lt_of_lt_of_le (Reader.remaining_nextRowBy_row step) (Nat.le_add_right _ _)
      · simp at h
      · simp at h

theorem remaining_finish (s : DataSection) (r : Reader) :
    (s.finish r).2.remaining ≤ r.remaining := by
  unfold finish
  split
  · exact Nat.le_refl _
  · split
    · exact Nat.le_refl _
    · exact Nat.le_trans (Reader.remaining_skipRows _ _) (Nat.le_add_right _ _)

end DataSection

end ReportSheets
