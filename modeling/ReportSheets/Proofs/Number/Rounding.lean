import Mathlib.Algebra.Order.Field.Basic
import Mathlib.Algebra.Order.Field.Rat
import Mathlib.Algebra.Ring.Parity
import Mathlib.Tactic.FieldSimp
import Mathlib.Tactic.Linarith
import ReportSheets.Number.Plain
import ReportSheets.Proofs.Number.Whole
import ReportSheets.Proofs.Text.Digits

namespace ReportSheets

/-- `n` is the natural number nearest to `x`, the even one where two are equally near. -/
structure RoundedHalfEven (x : ℚ) (n : ℕ) : Prop where
  near : |x - n| ≤ 1 / 2
  even : |x - n| = 1 / 2 → Even n

/-- A quotient is a whole part and a part of one, the doubled rest of the division telling which side
of a half it is on. -/
theorem exists_part (num : ℕ) {den : ℕ} (positive : 0 < den) :
    ∃ part : ℚ, (num : ℚ) / den = (num / den : ℕ) + part ∧ 0 ≤ part ∧ part < 1 ∧
      ((2 * (num % den) : ℕ) : ℚ) = 2 * part * den := by
  have divisor : (0 : ℚ) < den := Nat.cast_pos.mpr positive
  have whole : (num : ℚ) = den * (num / den : ℕ) + (num % den : ℕ) := by
    exact_mod_cast (Nat.div_add_mod num den).symm
  refine ⟨(num % den : ℕ) / den, ?_, div_nonneg (Nat.cast_nonneg _) divisor.le, ?_, ?_⟩
  · nth_rewrite 1 [whole]
    field_simp
  · rw [div_lt_one divisor]
    exact_mod_cast Nat.mod_lt num positive
  · rw [Nat.cast_mul, Nat.cast_ofNat]
    field_simp

theorem rounded_roundHalfEven (num : ℕ) {den : ℕ} (positive : 0 < den) :
    RoundedHalfEven (num / den) (roundHalfEven num den) := by
  obtain ⟨part, sum, nonnegative, lessThanOne, doubled⟩ := exists_part num positive
  have divisor : (0 : ℚ) < den := Nat.cast_pos.mpr positive
  have down : |(num : ℚ) / den - (num / den : ℕ)| = part := by
    rw [sum, add_sub_cancel_left, abs_of_nonneg nonnegative]
  have up : |(num : ℚ) / den - (num / den + 1 : ℕ)| = 1 - part := by
    rw [sum, Nat.cast_add, Nat.cast_one, add_sub_add_left_eq_sub, abs_of_neg (by linarith), neg_sub]
  rw [roundHalfEven]
  -- the rest is less than a half, just a half, or more
  rcases Nat.lt_trichotomy (2 * (num % den)) den with low | tie | high
  · have below : part < 1 / 2 := by
      have scaled : ((2 * (num % den) : ℕ) : ℚ) < den := Nat.cast_lt.mpr low
      rw [doubled] at scaled
      nlinarith only [scaled, divisor]
    rw [if_pos low]
    constructor <;> rw [down]
    · exact below.le
    · exact fun half => absurd half below.ne
  · have half : part = 1 / 2 := by
      have scaled : ((2 * (num % den) : ℕ) : ℚ) = den := congrArg Nat.cast tie
      rw [doubled] at scaled
      have one : 2 * part = 1 := mul_right_cancel₀ divisor.ne' (scaled.trans (one_mul _).symm)
      linarith only [one]
    rw [if_neg (by omega), if_neg (by omega)]
    rcases Nat.even_or_odd (num / den) with even | odd
    · rw [Nat.even_iff.mp even, Nat.add_zero]
      exact ⟨(down.trans half).le, fun _ => even⟩
    · have distance : (1 : ℚ) - part = 1 / 2 := by linarith only [half]
      rw [Nat.odd_iff.mp odd]
      exact ⟨(up.trans distance).le, fun _ => odd.add_one⟩
  · have above : 1 / 2 < part := by
      have scaled : (den : ℚ) < (2 * (num % den) : ℕ) := Nat.cast_lt.mpr high
      rw [doubled] at scaled
      nlinarith only [scaled, divisor]
    rw [if_neg (by omega), if_pos high]
    constructor <;> rw [up]
    · linarith only [above]
    · exact fun half => absurd half (by linarith only [above] : (1 : ℚ) - part < 1 / 2).ne

namespace Magnitude

def value (m : Magnitude) : ℚ := m.units / unitsPerOne

variable (m : Magnitude) (places : Nat)

theorem length_fraction_fixed : (m.fixed places).2.length = places := by
  rw [fixed]
  by_cases none : places = 0
  · simp only [none, if_pos, List.length_nil]
  · simp only [if_neg none, Text.length_padded]
    rw [Nat.max_eq_left]
    rw [Text.natural, Nat.length_toDigits_le_iff (by decide) (Nat.pos_of_ne_zero none)]
    exact Nat.mod_lt _ (Nat.pow_pos (by decide))

theorem isDigit_of_mem_fixed :
    ∀ c ∈ (m.fixed places).1 ++ (m.fixed places).2, Text.isDigit c = true := by
  intro c member
  rw [fixed] at member
  rcases List.mem_append.mp member with whole | fraction
  · exact Text.isDigit_of_mem_natural whole
  · by_cases none : places = 0
    · rw [if_pos none] at fraction
      exact absurd fraction List.not_mem_nil
    · rw [if_neg none] at fraction
      exact Text.isDigit_of_mem_padded (fun _ => Text.isDigit_of_mem_natural) c fraction

theorem naturalOf_fixed :
    Text.naturalOf ((m.fixed places).1 ++ (m.fixed places).2) =
      roundHalfEven (m.units * 10 ^ places) unitsPerOne := by
  rw [Text.naturalOf_append, length_fraction_fixed, fixed, Nat.pow_eq]
  generalize roundHalfEven (m.units * 10 ^ places) unitsPerOne = scaled
  rw [Text.naturalOf_natural]
  by_cases none : places = 0
  · rw [none, if_pos rfl, Nat.pow_zero, Nat.div_one, Nat.one_mul]
    rfl
  · rw [if_neg none, Text.naturalOf_padded, Text.naturalOf_natural]
    exact Nat.div_add_mod scaled (10 ^ places)

/-- The digits are those of the magnitude, rounded half to even in the last decimal. -/
theorem rounded_fixed :
    RoundedHalfEven (m.value * 10 ^ places)
      (Text.naturalOf ((m.fixed places).1 ++ (m.fixed places).2)) := by
  have scaled : m.value * 10 ^ places = (m.units * 10 ^ places : ℕ) / (unitsPerOne : ℕ) := by
    rw [value, Nat.cast_mul, Nat.cast_pow, Nat.cast_ofNat, div_mul_eq_mul_div]
  rw [naturalOf_fixed, scaled]
  exact rounded_roundHalfEven _ unitsPerOne_pos

end Magnitude

end ReportSheets
