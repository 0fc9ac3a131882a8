import ReportSheets.Proofs.Formula.Literals
import ReportSheets.Proofs.Number.Nearest

namespace ReportSheets

theorem pow_split (base step n : Nat) :
    base ^ n = (base ^ step) ^ (n / step) * base ^ (n % step) := by
  rw [← Nat.pow_mul, ← Nat.pow_add, Nat.div_add_mod]

theorem ten_pow_le_two_pow (n : Nat) : 10 ^ n ≤ 2 ^ (10 * (n / 3) + 4 * (n % 3)) := by
  rw [pow_split 10 3, Nat.pow_add, Nat.pow_mul, Nat.pow_mul]
  exact Nat.mul_le_mul (Nat.pow_le_pow_left (by decide) _) (Nat.pow_le_pow_left (by decide) _)

theorem two_pow_le_ten_pow (n : Nat) : 2 ^ (93 * (n / 28) + 3 * (n % 28)) ≤ 10 ^ n := by
  rw [pow_split 10 28, Nat.pow_add, Nat.pow_mul, Nat.pow_mul]
  exact Nat.mul_le_mul (Nat.pow_le_pow_left (by decide) _) (Nat.pow_le_pow_left (by decide) _)

namespace Magnitude

variable {m : Magnitude} {exponent : Int}

theorem log2_units_le (visible : m.significand ≠ 0) : m.units.log2 ≤ m.scale + 52 := by
  rw [units, Nat.pow_eq, log2_mul_two_pow visible, Nat.add_comm]
  exact Nat.add_le_add_left (log2_le_of_small m.canonical.1) _

/-- Steps of a power of ten at which no interval between two middles is missed. -/
def Fine (m : Magnitude) (exponent : Int) : Prop :=
  2 * (10 ^ exponent.toNat * unitsPerOne) < 2 ^ m.scale * 10 ^ (-exponent).toNat

theorem fine_topExponent (visible : m.significand ≠ 0) : m.Fine (m.topExponent - 31) := by
  obtain ⟨places, all⟩ : ∃ places, 1074 = places := ⟨_, rfl⟩
  have upper := log2_units_le visible
  have room := m.canonical.2.1
  obtain ⟨up, isUp⟩ : ∃ up, (m.topExponent - 31).toNat = up := ⟨_, rfl⟩
  obtain ⟨down, isDown⟩ : ∃ down, (-(m.topExponent - 31)).toNat = down := ⟨_, rfl⟩
  rw [Fine, isUp, isDown, unitsPerOne_eq all]
  have exponents : 1 + (10 * (up / 3) + 4 * (up % 3)) + places <
      m.scale + (93 * (down / 28) + 3 * (down % 28)) := by
    rw [topExponent] at isUp isDown
    omega
  calc 2 * (10 ^ up * 2 ^ places)
      ≤ 2 * (2 ^ (10 * (up / 3) + 4 * (up % 3)) * 2 ^ places) :=
        Nat.mul_le_mul_left 2 (Nat.mul_le_mul_right _ (ten_pow_le_two_pow up))
    _ = 2 ^ (1 + (10 * (up / 3) + 4 * (up % 3)) + places) := by
        rw [Nat.pow_add _ (1 + _), Nat.pow_add 2 1, Nat.pow_one, Nat.mul_assoc]
    _ < 2 ^ (m.scale + (93 * (down / 28) + 3 * (down % 28))) :=
        Nat.pow_lt_pow_right (by decide) exponents
    _ ≤ 2 ^ m.scale * 10 ^ down := by
        rw [Nat.pow_add]
        exact Nat.mul_le_mul_left _ (two_pow_le_ten_pow down)

theorem gaps (m : Magnitude) :
    2 ^ m.scale ≤ m.gapBelow ∧ 2 ^ m.scale ≤ m.gapAbove ∧ m.gapBelow ≤ 2 * 2 ^ m.scale ∧
      m.gapAbove = 2 * 2 ^ m.scale := by
  rw [gapBelow, gapAbove, Nat.pow_eq]
  generalize 2 ^ m.scale = step
  split
  · exact ⟨Nat.le_refl _, by omega, by omega, rfl⟩
  · exact ⟨by omega, by omega, Nat.le_refl _, rfl⟩

theorem exists_near (m : Magnitude) (exponent : Int) :
    ∃ d ∈ m.neighbours exponent, d.exponent = exponent ∧
      2 * (m.units * 10 ^ (-exponent).toNat) ≤
        2 * (d.coefficient * (10 ^ exponent.toNat * unitsPerOne)) +
          10 ^ exponent.toNat * unitsPerOne ∧
      2 * (d.coefficient * (10 ^ exponent.toNat * unitsPerOne)) ≤
        2 * (m.units * 10 ^ (-exponent).toNat) + 10 ^ exponent.toNat * unitsPerOne := by
  delta neighbours
  have positive : 0 < 10 ^ exponent.toNat * unitsPerOne :=
    Nat.mul_pos (Nat.pow_pos (by decide)) unitsPerOne_pos
  generalize unitsPerOne = one at positive ⊢
  simp only [Nat.pow_eq]
  generalize 10 ^ exponent.toNat * one = step at positive ⊢
  generalize m.units * 10 ^ (-exponent).toNat = value
  have division : value / step * step + value % step = value := by
    rw [Nat.mul_comm]
    exact Nat.div_add_mod value step
  have rest : value % step < step := Nat.mod_lt _ positive
  split
  · refine ⟨⟨value / step, exponent⟩, List.mem_cons_self, rfl, ?_, ?_⟩ <;> dsimp only <;> omega
  · refine ⟨⟨value / step + 1, exponent⟩, List.mem_cons_self, rfl, ?_, ?_⟩ <;> dsimp only <;>
      rw [Nat.add_mul, Nat.one_mul] <;> omega

theorem rounds_of_near (visible : m.significand ≠ 0) (fine : m.Fine exponent) {coefficient : Nat}
    (low : 2 * (m.units * 10 ^ (-exponent).toNat) ≤
      2 * (coefficient * (10 ^ exponent.toNat * unitsPerOne)) + 10 ^ exponent.toNat * unitsPerOne)
    (high : 2 * (coefficient * (10 ^ exponent.toNat * unitsPerOne)) ≤
      2 * (m.units * 10 ^ (-exponent).toNat) + 10 ^ exponent.toNat * unitsPerOne) :
    m.Rounds (coefficient * 10 ^ exponent.toNat * unitsPerOne) (10 ^ (-exponent).toNat) := by
  obtain ⟨below, above, small, -⟩ := m.gaps
  rw [Fine] at fine
  rw [Nat.mul_assoc]
  have own : 2 ^ m.scale ≤ m.units := Nat.le_mul_of_pos_left _ (Nat.pos_of_ne_zero visible)
  generalize 10 ^ exponent.toNat * unitsPerOne = step at *
  generalize 10 ^ (-exponent).toNat = den at *
  have gapBelow : 2 * step < m.gapBelow * den :=
    Nat.lt_of_lt_of_le fine (Nat.mul_le_mul_right den below)
  have gapAbove : 2 * step < m.gapAbove * den :=
    Nat.lt_of_lt_of_le fine (Nat.mul_le_mul_right den above)
  have room : m.gapBelow * den ≤ 4 * m.units * den := Nat.mul_le_mul_right den (by omega)
  rw [Nat.mul_assoc] at room
  constructor
  · rw [Nat.sub_mul, Nat.mul_assoc]
    omega
  · rw [Nat.add_mul, Nat.mul_assoc]
    omega
  · rw [Nat.sub_mul, Nat.add_mul, Nat.mul_assoc]
    exact .inr ⟨by omega, by omega⟩

/-- The shortest decimal of a magnitude rounds to it. -/
theorem rounds_shortest (visible : m.significand ≠ 0) :
    m.Rounds (m.shortest.coefficient * 10 ^ m.shortest.exponent.toNat * unitsPerOne)
      (10 ^ (-m.shortest.exponent).toNat) := by
  have found : ∃ place ∈ List.range 32,
      ((m.neighbours (m.topExponent - (place : Nat))).find? m.isWrittenBy).isSome = true := by
    refine ⟨31, by decide, ?_⟩
    obtain ⟨d, member, exponent, low, high⟩ := m.exists_near (m.topExponent - 31)
    have rounds := rounds_of_near visible (fine_topExponent visible) low high
    rw [← exponent] at rounds
    exact List.find?_isSome.mpr ⟨d, member, isWrittenBy_iff.2 rounds⟩
  obtain ⟨d, chosen⟩ := Option.isSome_iff_exists.mp (List.findSome?_isSome_iff.mpr found)
  obtain ⟨place, -, first⟩ := List.exists_of_findSome?_eq_some chosen
  have same : m.shortest = d := by
    rw [shortest, chosen, Option.getD_some]
  rw [same]
  exact isWrittenBy_iff.1 (List.find?_some first)

end Magnitude

namespace Binary64

variable {m : Magnitude} {coefficient : Nat} {exponent : Int}

open Magnitude Text

theorem length_natural_le_iff {n size : Nat} (positive : 0 < size) :
    (natural n).length ≤ size ↔ n < 10 ^ size :=
  Nat.length_toDigits_le_iff (by decide) positive

theorem bounds_of_rounds (visible : m.significand ≠ 0) {num den : Nat} (positive : 0 < den)
    (rounds : m.Rounds num den) : 2 * den ≤ 4 * num ∧ 4 * num < 2 ^ (55 + m.scale) * den := by
  obtain ⟨-, -, below, above⟩ := m.gaps
  have bits : m.significand + 1 ≤ 2 ^ 53 := m.canonical.1
  have power : 0 < 2 ^ m.scale := Nat.two_pow_pos _
  have own : 2 ^ m.scale ≤ m.units := Nat.le_mul_of_pos_left _ (Nat.pos_of_ne_zero visible)
  constructor
  · exact Nat.le_trans (Nat.mul_le_mul_right den (by omega)) rounds.low
  · refine Nat.lt_of_le_of_lt rounds.high (Nat.mul_lt_mul_of_pos_right ?_ positive)
    have whole : m.units + 2 ^ m.scale ≤ 2 ^ 53 * 2 ^ m.scale := by
      rw [units, Nat.pow_eq, ← Nat.succ_mul]
      exact Nat.mul_le_mul_right _ bits
    rw [Nat.pow_add]
    omega

theorem ten_pow_le {n : Nat} (some : n ≠ 0) : 10 ^ ((natural n).length - 1) ≤ n := by
  by_contra less
  by_cases one : (natural n).length = 1
  · rw [one] at less
    exact less (Nat.one_le_iff_ne_zero.mpr some)
  have digits : 0 < (natural n).length := List.length_pos_iff.mpr Nat.toDigits_ne_nil
  have shorter := (length_natural_le_iff (by omega)).mpr (Nat.not_le.mp less)
  omega

/-- What is not below half a unit has few zeros behind its point. -/
theorem size_ge (low : 2 * 10 ^ (-exponent).toNat ≤
      4 * (coefficient * 10 ^ exponent.toNat * unitsPerOne)) :
    -330 ≤ ((natural coefficient).length : Int) + exponent := by
  obtain ⟨places, all⟩ : ∃ places, 1074 = places := ⟨_, rfl⟩
  rw [unitsPerOne_eq all] at low
  have digits : 0 < (natural coefficient).length := List.length_pos_iff.mpr Nat.toDigits_ne_nil
  have below := (length_natural_le_iff digits).mp (Nat.le_refl _)
  generalize (natural coefficient).length = size at *
  by_contra less
  obtain ⟨more, isMore⟩ : ∃ more, (-exponent).toNat = more + size :=
    ⟨(-exponent).toNat - size, by omega⟩
  have zero : exponent.toNat = 0 := by omega
  have reached : 2 * 10 ^ more * 10 ^ size ≤ 4 * 2 ^ places * 10 ^ size := by
    calc 2 * 10 ^ more * 10 ^ size
        = 2 * 10 ^ (-exponent).toNat := by rw [isMore, Nat.pow_add, Nat.mul_assoc]
      _ ≤ 4 * (coefficient * 10 ^ exponent.toNat * 2 ^ places) := low
      _ = 4 * 2 ^ places * coefficient := by
          rw [zero, Nat.pow_zero, Nat.mul_one, Nat.mul_comm coefficient, Nat.mul_assoc]
      _ ≤ 4 * 2 ^ places * 10 ^ size := Nat.mul_le_mul_left _ (Nat.le_of_lt below)
  have steps : 2 * 10 ^ more ≤ 4 * 2 ^ places :=
    Nat.le_of_mul_le_mul_right reached (Nat.pow_pos (by decide))
  have grows := two_pow_le_ten_pow more
  have less : 2 ^ (places + 1) < 2 ^ (93 * (more / 28) + 3 * (more % 28)) :=
    Nat.pow_lt_pow_right (by decide) (by omega)
  rw [Nat.pow_succ] at less
  omega

/-- What is not above the largest magnitude has few digits before its point. -/
theorem size_le (some : coefficient ≠ 0) {scale : Nat} (room : scale ≤ 2045)
    (high : 4 * (coefficient * 10 ^ exponent.toNat * unitsPerOne) <
      2 ^ (55 + scale) * 10 ^ (-exponent).toNat) :
    ((natural coefficient).length : Int) + exponent ≤ 310 := by
  obtain ⟨places, all⟩ : ∃ places, 1074 = places := ⟨_, rfl⟩
  rw [unitsPerOne_eq all] at high
  have above := ten_pow_le some
  generalize (natural coefficient).length = size at *
  obtain ⟨up, isUp⟩ : ∃ up, exponent.toNat = up := ⟨_, rfl⟩
  obtain ⟨down, isDown⟩ : ∃ down, (-exponent).toNat = down := ⟨_, rfl⟩
  rw [isUp, isDown] at high
  by_contra greater
  obtain ⟨more, isMore⟩ : ∃ more, size - 1 + up = more + down :=
    ⟨size - 1 + up - down, by omega⟩
  have reached : 4 * (10 ^ more * 2 ^ places) * 10 ^ down < 2 ^ (55 + scale) * 10 ^ down := by
    calc 4 * (10 ^ more * 2 ^ places) * 10 ^ down
        = 4 * (10 ^ (size - 1) * 10 ^ up * 2 ^ places) := by
          rw [← Nat.pow_add, isMore, Nat.pow_add]
          ring
      _ ≤ 4 * (coefficient * 10 ^ up * 2 ^ places) :=
          Nat.mul_le_mul_left 4 (Nat.mul_le_mul_right _ (Nat.mul_le_mul_right _ above))
      _ < 2 ^ (55 + scale) * 10 ^ down := high
  have steps : 4 * (10 ^ more * 2 ^ places) < 2 ^ (55 + scale) :=
    Nat.lt_of_mul_lt_mul_right reached
  have grows : 2 ^ (93 * (more / 28) + 3 * (more % 28) + places) ≤ 10 ^ more * 2 ^ places := by
    rw [Nat.pow_add]
    exact Nat.mul_le_mul_right _ (two_pow_le_ten_pow more)
  have less : 2 ^ (53 + scale) ≤ 2 ^ (93 * (more / 28) + 3 * (more % 28) + places) :=
    Nat.pow_le_pow_right (by decide) (by omega)
  rw [Nat.pow_add] at steps less
  omega

/-- What rounds to a magnitude is neither too small nor too large to be read. -/
theorem ofDecimal_of_rounds (negative : Bool) (visible : m.significand ≠ 0)
    (rounds : m.Rounds (coefficient * 10 ^ exponent.toNat * unitsPerOne) (10 ^ (-exponent).toNat)) :
    ofDecimal negative coefficient exponent = .finite negative m := by
  have positive : 0 < 10 ^ (-exponent).toNat := Nat.pow_pos (by decide)
  obtain ⟨low, high⟩ := bounds_of_rounds visible positive rounds
  have some : coefficient ≠ 0 := by
    rintro rfl
    simp only [Nat.zero_mul] at low
    omega
  have least := size_ge low
  have most := size_le some m.canonical.2.1 high
  have nearest := nearest?_of_rounds visible positive rounds
  rw [ofDecimal, if_neg (by omega), if_neg (by omega), ofRatio, Nat.pow_eq, Nat.pow_eq, nearest,
    Option.elim_some]

theorem readUnsigned?_zeros (negative : Bool) (zeros : Nat) :
    IsDigits (natural coefficient ++ List.replicate zeros '0') ∧
      readUnsigned? negative (natural coefficient ++ List.replicate zeros '0') =
        some (ofDecimal negative (coefficient * 10 ^ zeros) 0) := by
  have whole : IsDigits (natural coefficient ++ List.replicate zeros '0') := by
    refine ⟨by simp [Nat.toDigits_ne_nil, natural], fun c member => ?_⟩
    rcases List.mem_append.mp member with own | zero
    · exact isDigit_of_mem_natural own
    · rw [List.eq_of_mem_replicate zero]
      decide
  refine ⟨whole, ?_⟩
  rw [readUnsigned?_whole negative whole, naturalOf_append, naturalOf_zeros, naturalOf_natural,
    List.length_replicate, Nat.add_zero, Nat.mul_comm]

theorem readUnsigned?_places (negative : Bool) (places : Nat) :
    UnsignedNumber (Decimal.positional ⟨coefficient, .negSucc places⟩) ∧
      readUnsigned? negative (Decimal.positional ⟨coefficient, .negSucc places⟩) =
        some (ofDecimal negative coefficient (.negSucc places)) := by
  obtain ⟨shown, isShown⟩ : ∃ shown, padded (places + 2) (natural coefficient) = shown := ⟨_, rfl⟩
  have each : ∀ c ∈ shown, isDigit c = true :=
    isShown ▸ isDigit_of_mem_padded fun _ => isDigit_of_mem_natural
  have long : places + 2 ≤ shown.length := by
    rw [← isShown, length_padded]
    exact Nat.le_max_left ..
  have whole : IsDigits (shown.take (shown.length - (places + 1))) := by
    refine ⟨?_, fun c member => each c (List.mem_of_mem_take member)⟩
    rw [Ne, ← List.length_eq_zero_iff, List.length_take]
    omega
  have count : (shown.drop (shown.length - (places + 1))).length = places + 1 := by
    rw [List.length_drop]
    omega
  have fraction : IsDigits (shown.drop (shown.length - (places + 1))) := by
    refine ⟨?_, fun c member => each c (List.mem_of_mem_drop member)⟩
    rw [Ne, ← List.length_eq_zero_iff, count]
    exact Nat.succ_ne_zero places
  simp only [Decimal.positional, isShown]
  refine ⟨.fraction whole fraction, ?_⟩
  rw [readUnsigned?_fraction negative whole fraction, List.take_append_drop, count, ← isShown,
    naturalOf_padded, naturalOf_natural]
  rfl

theorem reads_positional (visible : m.significand ≠ 0) {d : Decimal}
    (rounds : m.Rounds (d.coefficient * 10 ^ d.exponent.toNat * unitsPerOne)
      (10 ^ (-d.exponent).toNat)) :
    UnsignedNumber d.positional ∧
      ∀ negative, readUnsigned? negative d.positional = some (.finite negative m) := by
  obtain ⟨coefficient, exponent⟩ := d
  cases exponent with
  | ofNat zeros =>
    refine ⟨.whole (readUnsigned?_zeros false zeros).1, fun negative => ?_⟩
    refine (readUnsigned?_zeros negative zeros).2.trans (congrArg some ?_)
    apply ofDecimal_of_rounds negative visible
    simpa using rounds
  | negSucc places =>
    refine ⟨(readUnsigned?_places false places).1, fun negative => ?_⟩
    exact (readUnsigned?_places negative places).2.trans
      (congrArg some (ofDecimal_of_rounds negative visible rounds))

theorem eq_zero_of_significand (least : m.significand = 0) : m = .zero := by
  obtain ⟨significand, scale, small, room, full⟩ := m
  dsimp only at least
  subst least
  rcases full with rfl | full
  · rfl
  · exact absurd full (by decide)

theorem reads_unsignedText (m : Magnitude) :
    UnsignedNumber (unsignedText (.finite false m)) ∧
      ∀ negative, readUnsigned? negative (unsignedText (.finite false m)) =
        some (.finite negative m) := by
  rw [unsignedText]
  split
  · rename_i least
    rw [eq_zero_of_significand least]
    exact ⟨.whole (by decide), by decide⟩
  · rename_i visible
    exact reads_positional visible (rounds_shortest visible)

theorem read?_of_unsigned {text : List Char} (shape : UnsignedNumber text) :
    read? text = readUnsigned? false text := by
  have bare := shape.withoutSign_eq
  unfold read?
  split
  · exact absurd (congrArg List.length bare) (by simp [withoutSign])
  · exact absurd (congrArg List.length bare) (by simp [withoutSign])
  · rfl

theorem read?_text (n : Binary64) : read? n.text = some n := by
  cases n with
  | nan => decide
  | infinite negative => cases negative <;> decide
  | finite negative m =>
    obtain ⟨shape, read⟩ := reads_unsignedText m
    cases negative with
    | true => exact read true
    | false => exact (read?_of_unsigned shape).trans (read false)

end Binary64

end ReportSheets
