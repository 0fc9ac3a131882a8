import ReportSheets.Proofs.Number.Quoted

namespace ReportSheets

variable {text body : List Char} {n : Binary64}

theorem fieldPattern_append (first rest : List Char) :
    fieldPattern (first ++ rest) = fieldPattern first ++ fieldPattern rest := by
  rw [fieldPattern, List.filter_append, List.map_append]
  rfl

theorem fieldPattern_quotedText (text : List Char) :
    fieldPattern (quotedText text) = quotedText (fieldPattern text) := by
  have first : quotedText text = ['\''] ++ (text ++ ['\'']) := rfl
  rw [first, fieldPattern_append, fieldPattern_append]
  rfl

theorem of_mem_fieldPattern {c : Char} (member : c ∈ fieldPattern text) :
    c = '#' ∨ c = '0' ∨ c ∈ text := by
  obtain ⟨d, kept, rfl⟩ := List.mem_map.mp member
  have written := List.mem_of_mem_filter kept
  split
  · exact .inl rfl
  split
  · exact .inr (.inl rfl)
  · exact .inr (.inr written)

theorem not_mem_fieldPattern {c : Char} (absent : c ∉ text) (hash : c ≠ '#') (zero : c ≠ '0') :
    c ∉ fieldPattern text := by
  intro member
  rcases of_mem_fieldPattern member with same | same | written
  · exact hash same
  · exact zero same
  · exact absent written

theorem fieldPattern_eq_map (unmarked : '"' ∉ text) :
    fieldPattern text =
      text.map fun c => if c = 'Z' then '#' else if c = '9' then '0' else c := by
  have all : text.filter (· != '"') = text := by
    rw [List.filter_eq_self]
    intro c member
    rw [bne_iff_ne]
    rintro rfl
    exact unmarked member
  rw [fieldPattern, all]

theorem fieldPattern_eq_self_iff (unmarked : '"' ∉ text) :
    fieldPattern text = text ↔ 'Z' ∉ text ∧ '9' ∉ text := by
  rw [fieldPattern_eq_map unmarked]
  constructor
  · intro same
    have fixed := List.map_inj_left.mp (same.trans (List.map_id text).symm)
    constructor <;> intro member
    · exact absurd (fixed _ member) (by decide)
    · exact absurd (fixed _ member) (by decide)
  · rintro ⟨noLetter, noNine⟩
    refine (List.map_congr_left ?_).trans (List.map_id text)
    intro c member
    have letter : c ≠ 'Z' := ne_of_mem_of_not_mem member noLetter
    have nine : c ≠ '9' := ne_of_mem_of_not_mem member noNine
    rw [if_neg letter, if_neg nine, id]

theorem formatNumber_eq_ok_iff {pattern shown : String} :
    formatNumber n pattern = .ok shown ↔
      ∃ p, NumberPattern.read (fieldPattern pattern.toList) = .ok p ∧
        shown = String.ofList (p.render n) := by
  unfold formatNumber
  split
  · rename_i empty
    subst empty
    constructor
    · intro done
      cases done
    · rintro ⟨p, done, -⟩
      cases done
  · constructor
    · intro done
      obtain ⟨p, parsed, rfl⟩ := exists_of_map_ok done
      rw [NumberPattern.parse_eq_ok_iff, String.toList_ofList] at parsed
      exact ⟨p, parsed, rfl⟩
    · rintro ⟨p, parsed, rfl⟩
      have compiled : NumberPattern.parse (String.ofList (fieldPattern pattern.toList)) = .ok p := by
        rw [NumberPattern.parse_eq_ok_iff, String.toList_ofList]
        exact parsed
      rw [compiled]
      rfl

/-- Quoted text at the front of a field pattern is shown with its letters replaced, so it is kept
exactly when there are none of them in it. -/
theorem formatNumber_quotedText {shown : String} (visible : text ≠ [])
    (harmless : ∀ c ∈ ['\'', '"', ';', '%', '‰'], c ∉ text)
    (plain : ∀ c ∈ ['\'', '"', ';'], c ∉ body) (number : n ≠ .nan) (positive : n.isNegative = false)
    (accepted : formatNumber n (String.ofList body) = .ok shown) :
    formatNumber n (String.ofList (quotedText text ++ body)) =
        .ok (String.ofList (fieldPattern text) ++ shown) ∧
      (fieldPattern text = text ↔ 'Z' ∉ text ∧ '9' ∉ text) := by
  simp only [List.forall_mem_cons, List.not_mem_nil, false_imp_iff, implies_true, and_true]
    at harmless plain
  obtain ⟨bare, unmarked, undivided, unscaled, unscaledToo⟩ := harmless
  refine ⟨?_, fieldPattern_eq_self_iff unmarked⟩
  have letters : fieldPattern text ≠ [] := by
    rw [fieldPattern_eq_map unmarked]
    simpa only [ne_eq, List.map_eq_nil_iff] using visible
  obtain ⟨p, read, rfl⟩ := formatNumber_eq_ok_iff.mp accepted
  rw [String.toList_ofList] at read
  have single : ';' ∉ fieldPattern body :=
    not_mem_fieldPattern plain.2.2 (by decide) (by decide)
  obtain ⟨-, -, -, -, alone, -⟩ := (NumberPattern.read_single_eq_ok_iff single).mp read
  have percent : '%' ∉ fieldPattern text := not_mem_fieldPattern unscaled (by decide) (by decide)
  have perMille : '‰' ∉ fieldPattern text :=
    not_mem_fieldPattern unscaledToo (by decide) (by decide)
  have scale : p.beside (fieldPattern text) = p :=
    (NumberPattern.beside_eq_self_iff read _).mpr
      ⟨fun member => absurd member percent, fun member => absurd member perMille⟩
  have whole := NumberPattern.read_quotedText_append letters
    (not_mem_fieldPattern bare (by decide) (by decide))
    (not_mem_fieldPattern undivided (by decide) (by decide))
    (not_mem_fieldPattern plain.1 (by decide) (by decide)) single read
  rw [scale] at whole
  refine formatNumber_eq_ok_iff.mpr
    ⟨{ p with before := fieldPattern text ++ p.before }, ?_, ?_⟩
  · rw [String.toList_ofList, fieldPattern_append, fieldPattern_quotedText]
    exact whole
  · rw [NumberPattern.render_prepend alone number, NumberPattern.render_of_single alone number,
      positive, ← String.ofList_append]
    rfl

theorem formatNumber_quotedText_of_abbreviation :
    let n := Binary64.ofRatio false 2469 2
    formatNumber n "Z,ZZ9.99" = .ok "1,234.50" ∧
      formatNumber n "'Nr. 'Z,ZZ9.99" = .ok "Nr. 1,234.50" := by
  intro n
  let text := "Nr. ".toList
  let body := "Z,ZZ9.99".toList
  have accepted : formatNumber n (String.ofList body) = .ok "1,234.50" := by decide +kernel
  have visible : text ≠ [] := by decide
  have harmless : ∀ c ∈ ['\'', '"', ';', '%', '‰'], c ∉ text := by simp [text]
  have plain : ∀ c ∈ ['\'', '"', ';'], c ∉ body := by simp [body]
  have number : n ≠ .nan := by decide +kernel
  have positive : n.isNegative = false := by decide +kernel
  obtain ⟨quoted, kept⟩ :=
    formatNumber_quotedText visible harmless plain number positive accepted
  rw [kept.mpr (by decide)] at quoted
  exact ⟨accepted, quoted⟩

theorem quoted_letters_replaced :
    formatNumber (.ofNat 5) "0" = .ok "5" ∧ formatNumber (.ofNat 5) "'Z9'0" = .ok "#05" := by
  decide +kernel

end ReportSheets
