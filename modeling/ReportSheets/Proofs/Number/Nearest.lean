import Mathlib.Tactic.Ring
import ReportSheets.Number.Plain
import ReportSheets.Proofs.Number.Whole

namespace ReportSheets

theorem roundHalfEven_eq {num den n : Nat} (positive : 0 < den)
    (low : 2 * (n * den) ≤ 2 * num + den) (high : 2 * num ≤ 2 * (n * den) + den)
    (tie : n % 2 = 0 ∨ 2 * (n * den) ≠ 2 * num + den ∧ 2 * num ≠ 2 * (n * den) + den) :
    roundHalfEven num den = n := by
  have division : num / den * den + num % den = num := by
    rw [Nat.mul_comm]
    exact Nat.div_add_mod num den
  have rest : num % den < den := Nat.mod_lt _ positive
  rcases Nat.lt_trichotomy n (num / den) with below | same | above
  · have steps : (n + 1) * den ≤ num / den * den := Nat.mul_le_mul_right den below
    rw [Nat.add_mul] at steps
    omega
  · rw [← same] at division
    simp only [roundHalfEven, ← same]
    split
    · rfl
    split <;> omega
  · by_cases next : n = num / den + 1
    · have steps : n * den = num / den * den + den := by rw [next, Nat.add_mul, Nat.one_mul]
      simp only [roundHalfEven]
      split
      · omega
      split <;> omega
    · have steps : (num / den + 2) * den ≤ n * den := Nat.mul_le_mul_right den (by omega)
      rw [Nat.add_mul] at steps
      omega

namespace Magnitude

/-- `num / den` units lie between the middles to both neighbours, and on a middle only when the
significand is even. -/
structure Rounds (m : Magnitude) (num den : Nat) : Prop where
  low : (4 * m.units - m.gapBelow) * den ≤ 4 * num
  high : 4 * num ≤ (4 * m.units + m.gapAbove) * den
  even : m.significand % 2 = 0 ∨
    (4 * m.units - m.gapBelow) * den ≠ 4 * num ∧ 4 * num ≠ (4 * m.units + m.gapAbove) * den

theorem isWrittenBy_iff {m : Magnitude} {d : Decimal} :
    m.isWrittenBy d = true ↔
      m.Rounds (d.coefficient * 10 ^ d.exponent.toNat * unitsPerOne) (10 ^ (-d.exponent).toNat) := by
  delta isWrittenBy
  generalize unitsPerOne = one
  have value : d.coefficient * 10 ^ d.exponent.toNat * (4 * one) =
      4 * (d.coefficient * 10 ^ d.exponent.toNat * one) := by ring
  simp only [Nat.pow_eq, value]
  split
  · rename_i even
    rw [Bool.and_eq_true, decide_eq_true_eq, decide_eq_true_eq]
    exact ⟨fun within => ⟨within.1, within.2, .inl even⟩, fun rounds => ⟨rounds.low, rounds.high⟩⟩
  · rename_i odd
    rw [Bool.and_eq_true, decide_eq_true_eq, decide_eq_true_eq]
    constructor
    · intro within
      exact ⟨Nat.le_of_lt within.1, Nat.le_of_lt within.2,
        .inr ⟨Nat.ne_of_lt within.1, Nat.ne_of_lt within.2⟩⟩
    · rintro ⟨low, high, even | ⟨notLow, notHigh⟩⟩
      · exact absurd even odd
      · exact ⟨Nat.lt_of_le_of_ne low notLow, Nat.lt_of_le_of_ne high notHigh⟩

variable {m : Magnitude} {num den : Nat}

theorem scaleOf_eq {whole scale : Nat} (lower : scale = 0 ∨ 2 ^ (52 + scale) ≤ whole)
    (upper : whole < 2 ^ (53 + scale)) : scaleOf whole = scale := by
  by_cases zero : whole = 0
  · subst zero
    rcases lower with rfl | lower
    · rfl
    · exact absurd lower (Nat.not_le.mpr (Nat.two_pow_pos _))
  have less : whole.log2 < 53 + scale := (Nat.log2_lt zero).mpr upper
  rw [scaleOf]
  rcases lower with rfl | lower
  · omega
  · have reached : 52 + scale ≤ whole.log2 := (Nat.le_log2 zero).mpr lower
    omega

/-- The scale of a quotient is told by its steps at that scale. -/
theorem scaleOf_div {scale : Nat} (positive : 0 < den)
    (lower : scale = 0 ∨ 2 ^ 52 * (den * 2 ^ scale) ≤ num)
    (upper : num < 2 ^ 53 * (den * 2 ^ scale)) : scaleOf (num / den) = scale := by
  have steps : ∀ bits, 2 ^ (bits + scale) * den = 2 ^ bits * (den * 2 ^ scale) := fun bits => by
    rw [Nat.pow_add, Nat.mul_assoc, Nat.mul_comm den]
  apply scaleOf_eq
  · rw [Nat.le_div_iff_mul_le positive, steps]
    exact lower
  · rw [Nat.div_lt_iff_lt_mul positive, steps]
    exact upper

theorem nearest?_of_significand (scaled : scaleOf (num / den) = m.scale)
    (rounded : roundHalfEven num (den * 2 ^ m.scale) = m.significand) :
    nearest? num den = some m := by
  obtain ⟨significand, scale, small, room, full⟩ := m
  dsimp only at scaled rounded
  simp only [nearest?, scaled, Nat.pow_eq, rounded, dif_pos small, dif_pos room]

/-- Below a power of two the magnitudes lie closer together, and one may be rounded up to it. -/
theorem nearest?_of_power {scale : Nat} (room : scale + 1 ≤ 2045) (power : m.significand = 2 ^ 52)
    (above : m.scale = scale + 1) (scaled : scaleOf (num / den) = scale)
    (rounded : roundHalfEven num (den * 2 ^ scale) = 2 ^ 53) : nearest? num den = some m := by
  obtain ⟨significand, _, _⟩ := m
  dsimp only at power above
  subst power above
  simp only [nearest?, scaled, Nat.pow_eq, rounded, dif_pos room]
  rfl

/-- A significand on the edge to the scale below has magnitudes at half the distance below it. -/
theorem nearest?_of_edge (positive : 0 < den) (power : m.significand = 2 ^ 52) (scaled : m.scale ≠ 0)
    (low : 4 * (2 ^ 52 * (den * 2 ^ m.scale)) ≤ 4 * num + den * 2 ^ m.scale)
    (high : num < 2 ^ 52 * (den * 2 ^ m.scale)) : nearest? num den = some m := by
  have room := m.canonical.2.1
  obtain ⟨scale, isNext⟩ := Nat.exists_eq_succ_of_ne_zero scaled
  obtain ⟨half, isHalf⟩ : ∃ half, den * 2 ^ scale = half := ⟨_, rfl⟩
  have halves : den * 2 ^ m.scale = 2 * half := by
    rw [isNext, Nat.pow_succ, ← Nat.mul_assoc, isHalf, Nat.mul_comm]
  rw [halves] at low high
  have stepPos : 0 < half := isHalf ▸ Nat.mul_pos positive (Nat.two_pow_pos scale)
  have below : scaleOf (num / den) = scale :=
    scaleOf_div positive (.inr (by rw [isHalf]; omega)) (by rw [isHalf]; omega)
  refine nearest?_of_power (by omega) power isNext below ?_
  rw [isHalf]
  exact roundHalfEven_eq stepPos (by omega) (by omega) (.inl rfl)

theorem nearest?_of_rounds (visible : m.significand ≠ 0) (positive : 0 < den)
    (rounds : m.Rounds num den) : nearest? num den = some m := by
  obtain ⟨small, room, full⟩ := m.canonical
  obtain ⟨low, high, even⟩ := rounds
  obtain ⟨step, isStep⟩ : ∃ step, den * 2 ^ m.scale = step := ⟨_, rfl⟩
  have stepPos : 0 < step := isStep ▸ Nat.mul_pos positive (Nat.two_pow_pos m.scale)
  have single : 2 ^ m.scale * den = step := by rw [← isStep, Nat.mul_comm]
  have double : 2 * 2 ^ m.scale * den = 2 * step := by rw [Nat.mul_assoc, single]
  have value : 4 * (m.significand * 2 ^ m.scale) * den = 4 * (m.significand * step) := by
    rw [← isStep]
    ring
  simp only [units, gapBelow, gapAbove, Nat.pow_eq, Nat.add_mul, Nat.sub_mul, value, double]
    at low high even
  have upper : num < 2 ^ 53 * step := by
    have within : (m.significand + 1) * step ≤ 2 ^ 53 * step := Nat.mul_le_mul_right step small
    rw [Nat.add_mul] at within
    omega
  have own : step ≤ m.significand * step := Nat.le_mul_of_pos_left step (Nat.pos_of_ne_zero visible)
  by_cases edge : m.significand = 0x10000000000000 ∧ m.scale ≠ 0
  · rw [if_pos edge, single, edge.1] at low even
    rw [edge.1] at high
    by_cases enough : 2 ^ 52 * step ≤ num
    · have scaled := scaleOf_div positive (.inr (isStep ▸ enough)) (isStep ▸ upper)
      refine nearest?_of_significand scaled ?_
      rw [isStep, edge.1]
      exact roundHalfEven_eq stepPos (by omega) (by omega) (.inl rfl)
    · apply nearest?_of_edge positive edge.1 edge.2 <;> rw [isStep] <;> omega
  · rw [if_neg edge, double] at low even
    have lower : m.scale = 0 ∨ 2 ^ 52 * step ≤ num := by
      rcases full with least | full
      · exact .inl least
      by_cases least : m.scale = 0
      · exact .inl least
      have more : 2 ^ 52 + 1 ≤ m.significand := by omega
      have steps : (2 ^ 52 + 1) * step ≤ m.significand * step := Nat.mul_le_mul_right step more
      exact .inr (by omega)
    refine nearest?_of_significand (scaleOf_div positive (isStep ▸ lower) (isStep ▸ upper)) ?_
    rw [isStep]
    refine roundHalfEven_eq stepPos (by omega) (by omega) ?_
    rcases even with even | ⟨notLow, notHigh⟩
    · exact .inl even
    · exact .inr ⟨by omega, by omega⟩

end Magnitude
end ReportSheets
