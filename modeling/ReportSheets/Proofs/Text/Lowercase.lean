import ReportSheets.Text.Lowercase

namespace ReportSheets.Text

def Ascii (text : List Char) : Prop := ∀ c ∈ text, c.toNat < 128

instance (text : List Char) : Decidable (Ascii text) :=
  List.decidableBAll (fun c : Char => c.toNat < 128) text

def IsCapital (c : Char) : Prop := 65 ≤ c.toNat ∧ c.toNat ≤ 90

instance (c : Char) : Decidable (IsCapital c) := inferInstanceAs (Decidable (_ ∧ _))

variable {c : Char} {text before : List Char}

theorem toLower_of_not_capital (other : ¬ IsCapital c) : c.toLower = c := by
  have outside : ¬ ('A'.val ≤ c.val ∧ c.val ≤ 'Z'.val) := by
    simp only [UInt32.le_iff_toNat_le]
    exact other
  exact dif_neg outside

theorem forall_capital {P : Char → Prop} (each : ∀ n < 26, P (Char.ofNat (65 + n))) :
    ∀ c, IsCapital c → P c := by
  rintro c ⟨lower, upper⟩
  have holds := each (c.toNat - 65) (by omega)
  rwa [Nat.add_sub_cancel' lower, Char.ofNat_toNat] at holds

theorem toNat_toLower_of_capital : ∀ c, IsCapital c → c.toLower.toNat = c.toNat + 32 :=
  forall_capital (by decide)

theorem isCased_toLower (c : Char) : isCased c.toLower = isCased c := by
  by_cases capital : IsCapital c
  · revert c
    exact forall_capital (by decide)
  · rw [toLower_of_not_capital capital]

/-- No letter of ASCII is among the characters that case rules pass over. -/
theorem isCaseIgnorable_letter (letter : 65 ≤ c.toNat ∧ c.toNat ≤ 90 ∨ 97 ≤ c.toNat ∧ c.toNat ≤ 122) :
    isCaseIgnorable c = false := by
  have apart : ∀ range ∈ caseIgnorableRanges,
      range.2 < 65 ∨ 90 < range.1 ∧ range.2 < 97 ∨ 122 < range.1 := by decide +kernel
  rw [isCaseIgnorable, inRanges, List.any_eq_false]
  intro range member
  have := apart range member
  simp only [Bool.and_eq_true, decide_eq_true_eq]
  omega

theorem isCaseIgnorable_toLower (c : Char) : isCaseIgnorable c.toLower = isCaseIgnorable c := by
  by_cases capital : IsCapital c
  · have small := toNat_toLower_of_capital c capital
    unfold IsCapital at capital
    rw [isCaseIgnorable_letter (by omega), isCaseIgnorable_letter (by omega)]
  · rw [toLower_of_not_capital capital]

theorem lowerOf_capital : ∀ c, IsCapital c → lowerOf c = c.toLower := forall_capital (by decide)

theorem lowerOf_of_ascii (ascii : c.toNat < 128) : lowerOf c = c.toLower := by
  by_cases capital : IsCapital c
  · exact lowerOf_capital c capital
  · have capitals : lowercaseRuns = (65, 90, 1, 97) :: lowercaseRuns.tail := rfl
    have above : ∀ run ∈ lowercaseRuns.tail, 128 ≤ run.1 := by decide +kernel
    have outside : ∀ run ∈ lowercaseRuns, ¬ inRun c.toNat run = true := by
      rw [capitals, List.forall_mem_cons]
      constructor
      · simp only [inRun, Bool.and_eq_true, decide_eq_true_eq]
        exact fun inside => capital inside.1
      · intro run member
        have := above run member
        simp only [inRun, Bool.and_eq_true, decide_eq_true_eq]
        omega
    rw [lowerOf, List.find?_eq_none.mpr outside, toLower_of_not_capital capital]

theorem lowerOf_toLower (c : Char) : lowerOf c.toLower = lowerOf c := by
  by_cases capital : IsCapital c
  · have small := toNat_toLower_of_capital c capital
    unfold IsCapital at capital
    have settled : c.toLower.toLower = c.toLower :=
      toLower_of_not_capital fun again => by
        have := again.2
        omega
    rw [lowerOf_of_ascii (by omega), lowerOf_of_ascii (by omega), settled]
  · rw [toLower_of_not_capital capital]

theorem toLower_eq_iff {d : Char} (large : 128 ≤ d.toNat) : c.toLower = d ↔ c = d := by
  by_cases capital : IsCapital c
  · have small := toNat_toLower_of_capital c capital
    unfold IsCapital at capital
    constructor <;> (rintro rfl; omega)
  · rw [toLower_of_not_capital capital]

theorem casedFollows_map_toLower (text : List Char) :
    casedFollows (text.map Char.toLower) = casedFollows text := by
  have passed : isCaseIgnorable ∘ Char.toLower = isCaseIgnorable := funext isCaseIgnorable_toLower
  rw [casedFollows, casedFollows, List.dropWhile_map, passed]
  cases text.dropWhile isCaseIgnorable with
  | nil => rfl
  | cons c rest => exact isCased_toLower c

theorem lowercaseFrom_map_toLower (before text : List Char) :
    lowercaseFrom (before.map Char.toLower) (text.map Char.toLower) = lowercaseFrom before text := by
  induction text generalizing before with
  | nil => rfl
  | cons c rest ih =>
    have sigma : c.toLower = 'Σ' ↔ c = 'Σ' := toLower_eq_iff (by decide)
    have dotted : c.toLower = 'İ' ↔ c = 'İ' := toLower_eq_iff (by decide)
    have later := ih (c :: before)
    rw [List.map_cons] at later
    simp only [List.map_cons, lowercaseFrom, sigma, dotted, casedFollows_map_toLower,
      lowerOf_toLower, later]

/-- Two texts that differ in the case of ASCII letters alone are the same in lower case. -/
theorem lowercase_map_toLower (text : List Char) :
    lowercase (text.map Char.toLower) = lowercase text := lowercaseFrom_map_toLower [] text

theorem lowercaseFrom_of_ascii (before : List Char) (ascii : Ascii text) :
    lowercaseFrom before text = text.map Char.toLower := by
  induction text generalizing before with
  | nil => rfl
  | cons c rest ih =>
    obtain ⟨first, later⟩ := List.forall_mem_cons.mp ascii
    have noSigma : c ≠ 'Σ' := by
      rintro rfl
      exact absurd first (by decide)
    have notDotted : c ≠ 'İ' := by
      rintro rfl
      exact absurd first (by decide)
    simp only [lowercaseFrom, if_neg noSigma, if_neg notDotted, lowerOf_of_ascii first,
      ih (c :: before) later, List.map_cons, List.singleton_append]

theorem lowercase_of_ascii (ascii : Ascii text) : lowercase text = text.map Char.toLower :=
  lowercaseFrom_of_ascii [] ascii

end ReportSheets.Text
