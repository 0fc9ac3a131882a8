import ReportSheets.Proofs.Number.Rendered

namespace ReportSheets

def between (texts : List Char × List Char) (body : List Char) : List Char :=
  texts.1 ++ body ++ texts.2

/-- Both pairs make one text around `body`, which stands later in it for the second pair. -/
def Shifted (body : List Char) (own other : List Char × List Char) : Prop :=
  ∃ moved back, moved ≠ [] ∧ moved ++ body = body ++ back ∧
    other.1 = own.1 ++ moved ∧ own.2 = back ++ other.2

variable {body : List Char} {own other : List Char × List Char}

theorem between_of_shifted (shifted : Shifted body own other) :
    between own body = between other body := by
  obtain ⟨moved, back, -, turned, before, after⟩ := shifted
  calc own.1 ++ body ++ own.2
      = own.1 ++ (body ++ back) ++ other.2 := by rw [after]; simp only [List.append_assoc]
    _ = own.1 ++ (moved ++ body) ++ other.2 := by rw [turned]
    _ = other.1 ++ body ++ other.2 := by rw [before]; simp only [List.append_assoc]

theorem eq_or_shifted_of_begins (begins : own.1 <+: other.1)
    (same : between own body = between other body) : own = other ∨ Shifted body own other := by
  obtain ⟨ownBefore, ownAfter⟩ := own
  obtain ⟨otherBefore, otherAfter⟩ := other
  obtain ⟨moved, rfl⟩ := begins
  simp only [between, List.append_assoc, List.append_cancel_left_eq] at same
  by_cases none : moved = []
  · subst none
    left
    rw [List.append_nil, List.append_cancel_left same]
  · right
    rw [← List.append_assoc] at same
    rcases List.append_eq_append_iff.mp same with ⟨back, turned, after⟩ | ⟨rest, turned, -⟩
    · exact ⟨moved, back, none, turned, rfl, after⟩
    · -- the body would be longer than itself
      have lengths := congrArg List.length turned
      have some := List.length_pos_iff.mpr none
      simp only [List.length_append] at lengths
      omega

theorem between_eq_iff :
    between own body = between other body ↔
      own = other ∨ Shifted body own other ∨ Shifted body other own := by
  constructor
  · intro same
    have start : own.1 <+: between own body := by
      rw [between, List.append_assoc]
      exact List.prefix_append _ _
    have startOther : other.1 <+: between own body := by
      rw [same, between, List.append_assoc]
      exact List.prefix_append _ _
    rcases List.prefix_or_prefix_of_prefix start startOther with shorter | longer
    · exact (eq_or_shifted_of_begins shorter same).imp_right .inl
    · exact (eq_or_shifted_of_begins longer same.symm).imp Eq.symm .inr
  · rintro (rfl | later | earlier)
    · rfl
    · exact between_of_shifted later
    · exact (between_of_shifted earlier).symm

theorem exists_common_of_shifted (visible : body ≠ []) (shifted : Shifted body own other) :
    ∃ c ∈ body, c ∈ other.1 := by
  obtain ⟨moved, back, some, turned, before, -⟩ := shifted
  obtain ⟨c, rest, rfl⟩ := List.exists_cons_of_ne_nil visible
  obtain ⟨d, others, rfl⟩ := List.exists_cons_of_ne_nil some
  obtain ⟨rfl, -⟩ := List.cons.inj turned
  refine ⟨d, List.mem_cons_self, ?_⟩
  rw [before]
  exact List.mem_append_right _ List.mem_cons_self

namespace NumberPattern

variable {p : NumberPattern} {m : Magnitude}

theorem core_ne_nil (p : NumberPattern) (negative : Bool) (m : Magnitude) :
    p.core (.finite negative m) ≠ [] := by
  show p.shape.body ((Binary64.finite false m).scaleBy p.multiplier) ≠ []
  cases (Binary64.finite false m).scaleBy p.multiplier <;>
    exact DigitShape.layOut_ne_nil _ _ _

theorem render_positive (p : NumberPattern) (m : Magnitude) :
    p.render (.finite false m) = between (p.before, p.after) (p.core (.finite false m)) := rfl

theorem render_negative (p : NumberPattern) (nonzero : m.significand ≠ 0) :
    p.render (.finite true m) =
      between (p.negative.getD ('-' :: p.before, p.after)) (p.core (.finite false m)) := by
  have below : (Binary64.finite true m).isNegative = true := bne_iff_ne.mpr nonzero
  rw [render_eq_core Binary64.noConfusion, below]
  rfl

theorem render_opposite_of_single (single : p.negative = none) (nonzero : m.significand ≠ 0) :
    p.render (.finite true m) ≠ p.render (.finite false m) := by
  rw [render_positive, render_negative p nonzero, single]
  intro same
  have lengths := congrArg List.length same
  simp [between] at lengths

theorem render_opposite_of_texts {texts : List Char × List Char} (own : p.negative = some texts)
    (nonzero : m.significand ≠ 0) :
    p.render (.finite true m) = p.render (.finite false m) ↔
      (p.before, p.after) = texts ∨
        Shifted (p.core (.finite false m)) (p.before, p.after) texts ∨
        Shifted (p.core (.finite false m)) texts (p.before, p.after) := by
  rw [render_positive, render_negative p nonzero, own, eq_comm]
  exact between_eq_iff

/-- A positive number and its opposite are written differently, unless the pattern has literal texts
for negative numbers that are those for positive ones, or make the same text around the digits. -/
theorem render_opposite_eq_iff {text : String} (parsed : parse text = .ok p)
    (nonzero : m.significand ≠ 0) :
    let body := p.core (.finite false m)
    let own := (p.before, p.after)
    (p.negative = none ↔ ';' ∉ text.toList) ∧
      (p.render (.finite true m) = p.render (.finite false m) ↔
        ∃ texts, p.negative = some texts ∧
          (own = texts ∨ Shifted body own texts ∨ Shifted body texts own)) ∧
      ∀ texts, p.negative = some texts → (∀ c ∈ body, c ∉ p.before ++ texts.1) →
        (p.render (.finite true m) = p.render (.finite false m) ↔ own = texts) := by
  intro body own
  refine ⟨negative_eq_none_iff (parse_eq_ok_iff.mp parsed), ?_, ?_⟩
  · cases second : p.negative with
    | none =>
      refine iff_of_false (render_opposite_of_single second nonzero) ?_
      rintro ⟨texts, ⟨⟩, -⟩
    | some texts =>
      rw [render_opposite_of_texts second nonzero]
      constructor
      · exact fun same => ⟨texts, rfl, same⟩
      · rintro ⟨_, ⟨⟩, same⟩
        exact same
  · intro texts second apart
    rw [render_opposite_of_texts second nonzero]
    have visible := core_ne_nil p false m
    refine or_iff_left ?_
    rintro (later | earlier)
    · obtain ⟨c, inBody, inText⟩ := exists_common_of_shifted visible later
      exact apart c inBody (List.mem_append_right _ inText)
    · obtain ⟨c, inBody, inText⟩ := exists_common_of_shifted visible earlier
      exact apart c inBody (List.mem_append_left _ inText)

theorem render_opposite_eq_iff_of_digits :
    ∃ p m, parse "01;10" = .ok p ∧ Binary64.ofNat 1 = .finite false m ∧ m.significand ≠ 0 ∧
      p.negative = some (['1'], []) ∧
      Shifted (p.core (.finite false m)) (p.before, p.after) (['1'], []) ∧
      p.render (.finite true m) = p.render (.finite false m) ∧
      p.render (.finite false m) = "11".toList := by
  let p : NumberPattern := {
    before := []
    after := ['1']
    negative := some (['1'], [])
    shape := {
      minWhole := 1
      minFraction := 0
      maxFraction := 0
      grouping := 0
      barePoint := false }
    multiplier := 1 }
  let m : Magnitude := ⟨2 ^ 52, 1022, by decide⟩
  have parsed : parse "01;10" = .ok p := by decide +kernel
  have number : Binary64.ofNat 1 = .finite false m := by decide +kernel
  have nonzero : m.significand ≠ 0 := by decide
  have digits : p.core (.finite false m) = ['1'] := by decide +kernel
  have shown : p.render (.finite false m) = "11".toList := by decide +kernel
  have shifted : Shifted (p.core (.finite false m)) (p.before, p.after) (['1'], []) := by
    rw [digits]
    exact ⟨['1'], ['1'], List.cons_ne_nil _ _, rfl, rfl, rfl⟩
  exact ⟨p, m, parsed, number, nonzero, rfl, shifted,
    (render_opposite_eq_iff parsed nonzero).2.1.mpr ⟨_, rfl, .inr (.inl shifted)⟩, shown⟩

theorem sign_lost_to_repeated_subpattern :
    ∃ p, parse "0;0" = .ok p ∧ p.render (Binary64.ofRatio false 1 1) = "1".toList ∧
      p.render (Binary64.ofRatio true 1 1) = "1".toList := by
  refine ⟨{
    before := []
    after := []
    negative := some ([], [])
    shape := {
      minWhole := 1
      minFraction := 0
      maxFraction := 0
      grouping := 0
      barePoint := false }
    multiplier := 1 }, ?_, ?_, ?_⟩ <;> decide +kernel

end NumberPattern

end ReportSheets
