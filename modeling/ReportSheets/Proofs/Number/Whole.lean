import Mathlib.Algebra.Order.Ring.Nat
import ReportSheets.Formula.Value

namespace ReportSheets

namespace Magnitude

variable {n : Nat}

theorem roundHalfEven_mul (quotient : Nat) {den : Nat} (positive : 0 < den) :
    roundHalfEven (quotient * den) den = quotient := by
  have rest : quotient * den % den = 0 := Nat.mul_mod_left quotient den
  have whole : quotient * den / den = quotient := Nat.mul_div_cancel quotient positive
  simp only [roundHalfEven, rest, whole, Nat.mul_zero, if_pos positive]

theorem log2_mul_two_pow (some : n ≠ 0) (places : Nat) : (n * 2 ^ places).log2 = n.log2 + places := by
  induction places with
  | zero => rw [Nat.pow_zero, Nat.mul_one, Nat.add_zero]
  | succ places ih =>
    have product : n * 2 ^ places ≠ 0 := Nat.mul_ne_zero some (Nat.two_pow_pos places).ne'
    rw [Nat.pow_succ, ← Nat.mul_assoc, Nat.mul_comm _ 2, Nat.log2_two_mul product, ih, Nat.add_assoc]

theorem log2_le_of_small (small : n < 2 ^ 53) : n.log2 ≤ 52 := by
  by_cases zero : n = 0
  · simp [zero]
  · exact Nat.lt_succ_iff.mp ((Nat.log2_lt zero).mpr small)

-- The exponent is a variable, so that nothing computes the power.
theorem unitsPerOne_eq {places : Nat} (all : 1074 = places) : unitsPerOne = 2 ^ places := by
  delta unitsPerOne
  rw [all, Nat.pow_eq]

theorem unitsPerOne_pos : 0 < unitsPerOne := by
  obtain ⟨places, all⟩ : ∃ places, 1074 = places := ⟨_, rfl⟩
  rw [unitsPerOne_eq all]
  exact Nat.two_pow_pos places

/-- A quotient of 53 significant bits needs no rounding: the significand is filled up with zeros as
far as the least scale lets it. -/
theorem nearest?_exact {den places : Nat} (small : n < 2 ^ 53) (room : n.log2 + places ≤ 2097)
    (positive : 0 < den) :
    ∃ m, nearest? (n * 2 ^ places * den) den = some m ∧ m.units = n * 2 ^ places := by
  by_cases zero : n = 0
  · have significand : roundHalfEven 0 (den * Nat.pow 2 (scaleOf 0)) = 0 := by
      simpa using roundHalfEven_mul 0 (Nat.mul_pos positive (Nat.two_pow_pos (scaleOf 0)))
    rw [zero, Nat.zero_mul, Nat.zero_mul]
    simp only [nearest?, Nat.zero_div, significand]
    exact ⟨_, rfl, Nat.zero_mul _⟩
  have fits : n.log2 ≤ 52 := log2_le_of_small small
  obtain ⟨scale, isScale⟩ : ∃ scale, n.log2 + places - 52 = scale := ⟨_, rfl⟩
  obtain ⟨filled, isFilled⟩ : ∃ filled, places - scale = filled := ⟨_, rfl⟩
  have split : n * 2 ^ places = n * 2 ^ filled * 2 ^ scale := by
    rw [Nat.mul_assoc, ← Nat.pow_add]
    congr 2
    omega
  have scaled : scaleOf (n * 2 ^ places * den / den) = scale := by
    rw [Nat.mul_div_cancel _ positive, scaleOf, log2_mul_two_pow zero, isScale]
  have significand : roundHalfEven (n * 2 ^ places * den) (den * Nat.pow 2 scale) =
      n * 2 ^ filled := by
    rw [split, Nat.mul_assoc, Nat.mul_comm _ den, Nat.pow_eq]
    exact roundHalfEven_mul _ (Nat.mul_pos positive (Nat.two_pow_pos scale))
  have below : n * 2 ^ filled < 0x20000000000000 := by
    have bits : n < 2 ^ (n.log2 + 1) := Nat.lt_log2_self
    have within : n.log2 + 1 + filled ≤ 53 := by omega
    calc n * 2 ^ filled
        < 2 ^ (n.log2 + 1) * 2 ^ filled := Nat.mul_lt_mul_of_pos_right bits (Nat.two_pow_pos _)
      _ = 2 ^ (n.log2 + 1 + filled) := (Nat.pow_add ..).symm
      _ ≤ 2 ^ 53 := Nat.pow_le_pow_right (by decide) within
  have above : scale ≤ 2045 := by omega
  simp only [nearest?, scaled, significand, dif_pos below, dif_pos above]
  exact ⟨_, rfl, split.symm⟩

theorem nearest?_whole (small : n < 2 ^ 53) :
    ∃ m, nearest? (n * unitsPerOne) 1 = some m ∧ m.units = n * unitsPerOne := by
  obtain ⟨places, all⟩ : ∃ places, 1074 = places := ⟨_, rfl⟩
  have room : n.log2 + places ≤ 2097 := by
    have fits : n.log2 ≤ 52 := log2_le_of_small small
    omega
  simpa [unitsPerOne_eq all] using nearest?_exact small room Nat.one_pos

end Magnitude

namespace Binary64

variable {n : Nat}

-- Equations made from these definitions would compute the power; their bodies are put in instead.

theorem scaleBy_finite {negative : Bool} {m product : Magnitude} {factor : Nat}
    (nearest : Magnitude.nearest? (m.units * factor) 1 = some product) :
    (finite negative m).scaleBy factor = .finite negative product := by
  delta scaleBy
  dsimp only
  rw [nearest]

theorem scaleBy_overflow {negative : Bool} {m : Magnitude} {factor : Nat}
    (beyond : Magnitude.nearest? (m.units * factor) 1 = none) :
    (finite negative m).scaleBy factor = .infinite negative := by
  delta scaleBy
  dsimp only
  rw [beyond]

theorem scaleBy_infinite (negative : Bool) (factor : Nat) :
    (infinite negative).scaleBy factor = if factor = 0 then .nan else .infinite negative := rfl

theorem roundedTo_finite (m : Magnitude) (greatest : Nat) :
    (finite false m).roundedTo greatest =
      min greatest ((2 * m.units + Magnitude.unitsPerOne) / (2 * Magnitude.unitsPerOne)) := by
  delta roundedTo
  dsimp only
  simp only [Bool.false_eq_true, if_false]

theorem integer?_ofNat (small : n < 2 ^ 53) : (ofNat n).integer? = some (n : Int) := by
  obtain ⟨m, nearest, units⟩ := Magnitude.nearest?_whole small
  have whole : ((n * Magnitude.unitsPerOne : Nat) : Int) / Magnitude.unitsPerOne = n := by
    rw [← Int.natCast_ediv, Nat.mul_div_cancel n Magnitude.unitsPerOne_pos]
  have number : ofNat n = .finite false m := by
    rw [ofNat, ofRatio, nearest, Option.elim_some]
  rw [number, integer?, units, if_pos (Nat.mul_mod_left n Magnitude.unitsPerOne)]
  simp only [Bool.false_eq_true, if_false, whole]

theorem cellText_ofNat (small : n < integerLimit) : (ofNat n).cellText = Text.natural n := by
  have exact : n < 2 ^ 53 := Nat.lt_trans small (by decide)
  have below : isBelow integerLimit (n : Int) = true := by
    rw [isBelow, Int.natAbs_natCast, decide_eq_true_eq]
    exact small
  rw [cellText, integer?_ofNat exact]
  simp only [below, if_true]
  rw [Text.integer, if_neg (Int.not_lt.mpr (Int.natCast_nonneg n)), Int.natAbs_natCast]

end Binary64

end ReportSheets
