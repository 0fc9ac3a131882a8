import Mathlib.Tactic.Positivity
import Mathlib.Tactic.Ring
import ReportSheets.Proofs.Number.Rendered

namespace ReportSheets

/-- A quotient is rounded up to an even number from half a step below it on. -/
theorem le_roundHalfEven_iff {num den n : Nat} (positive : 0 < den) (even : n % 2 = 0)
    (some : 0 < n) : n ≤ roundHalfEven num den ↔ (2 * n - 1) * den ≤ 2 * num := by
  have division : den * (num / den) + num % den = num := Nat.div_add_mod num den
  have rest : num % den < den := Nat.mod_lt _ positive
  obtain ⟨lower, upper⟩ := roundHalfEven_bounds num den
  have double : 2 * num = 2 * (num / den) * den + 2 * (num % den) := by
    rw [Nat.mul_comm den] at division
    rw [Nat.mul_assoc]
    omega
  rcases Nat.lt_trichotomy n (num / den + 1) with below | next | above
  · have steps : (2 * n - 1) * den ≤ 2 * (num / den) * den :=
      Nat.mul_le_mul_right den (by omega)
    constructor <;> omega
  · have steps : (2 * n - 1) * den = 2 * (num / den) * den + den := by
      have odd : 2 * n - 1 = 2 * (num / den) + 1 := by omega
      rw [odd, Nat.add_mul, Nat.one_mul]
    rw [steps, double]
    simp only [roundHalfEven]
    split
    · omega
    split <;> omega
  · have steps : (2 * (num / den) + 3) * den ≤ (2 * n - 1) * den :=
      Nat.mul_le_mul_right den (by omega)
    rw [Nat.add_mul] at steps
    constructor <;> omega

namespace Magnitude

theorem nearest?_eq_none_iff_scale (num : Nat) :
    nearest? num 1 = none ↔
      2045 < scaleOf num ∨
        scaleOf num = 2045 ∧ 0x20000000000000 ≤ roundHalfEven num (2 ^ scaleOf num) := by
  have unit : 1 * Nat.pow 2 (scaleOf num) = 2 ^ scaleOf num := Nat.one_mul _
  simp only [nearest?, Nat.div_one, unit]
  split
  · split <;> simp <;> omega
  · split <;> simp <;> omega

/-- What is rounded to no magnitude lies at least half a step above the largest one. -/
theorem nearest?_eq_none_iff {num top : Nat} (isTop : 2045 = top) :
    nearest? num 1 = none ↔ 0x3FFFFFFFFFFFFF * 2 ^ top ≤ 2 * num := by
  rw [nearest?_eq_none_iff_scale, isTop]
  have power : 0 < 2 ^ top := Nat.two_pow_pos top
  rcases Nat.lt_trichotomy (scaleOf num) top with below | same | above
  · have bits : num < 2 ^ (num.log2 + 1) := Nat.lt_log2_self
    have within : 2 ^ (num.log2 + 1) ≤ 2 ^ (52 + top) := by
      refine Nat.pow_le_pow_right (by decide) ?_
      rw [scaleOf] at below
      omega
    rw [Nat.pow_add 2 52] at within
    constructor <;> omega
  · rw [same, le_roundHalfEven_iff power (by decide) (by decide)]
    constructor
    · rintro (less | ⟨-, reached⟩)
      · exact absurd less (Nat.lt_irrefl top)
      · exact reached
    · exact fun reached => .inr ⟨rfl, reached⟩
  · have some : num ≠ 0 := by
      rintro rfl
      simp [scaleOf] at above
    have bits : 2 ^ num.log2 ≤ num := Nat.log2_self_le some
    have within : 2 ^ (53 + top) ≤ 2 ^ num.log2 := by
      refine Nat.pow_le_pow_right (by decide) ?_
      rw [scaleOf] at above
      omega
    rw [Nat.pow_add 2 53] at within
    constructor
    · omega
    · exact fun _ => .inl above

def limit : ℚ := 2 ^ 1024 - 2 ^ 970

variable (m : Magnitude) (factor : Nat)

theorem limit_le_iff {top : Nat} (isTop : 2045 = top) :
    limit ≤ m.value * factor ↔ 0x3FFFFFFFFFFFFF * 2 ^ top ≤ 2 * (m.units * factor) := by
  obtain ⟨low, isLow⟩ : ∃ low, 970 = low := ⟨_, rfl⟩
  obtain ⟨places, isPlaces⟩ : ∃ places, 1074 = places := ⟨_, rfl⟩
  have limitIs : limit = 0x3FFFFFFFFFFFFF * 2 ^ low := by
    rw [limit, show 1024 = 54 + low by omega, isLow, pow_add]
    ring
  have topIs : (2 : ℚ) ^ top = 2 * (2 ^ low * 2 ^ places) := by
    rw [show top = low + places + 1 by omega, pow_succ, pow_add]
    ring
  have positive : (0 : ℚ) < 2 ^ places := by positivity
  have cast : (0x3FFFFFFFFFFFFF * 2 ^ top ≤ 2 * (m.units * factor)) ↔
      (0x3FFFFFFFFFFFFF * 2 ^ top : ℚ) ≤ 2 * (m.units * factor) := by
    exact_mod_cast Iff.rfl
  rw [cast, topIs, limitIs, value, unitsPerOne_eq isPlaces, div_mul_eq_mul_div,
    Nat.cast_pow, Nat.cast_ofNat, le_div_iff₀ positive]
  constructor <;> intro bound <;> linarith only [bound]

theorem nearest?_product_eq_none_iff :
    nearest? (m.units * factor) 1 = none ↔ limit ≤ m.value * factor := by
  obtain ⟨top, isTop⟩ : ∃ top, 2045 = top := ⟨_, rfl⟩
  rw [nearest?_eq_none_iff isTop, limit_le_iff m factor isTop]

theorem value_lt_limit : m.value < limit := by
  obtain ⟨top, isTop⟩ : ∃ top, 2045 = top := ⟨_, rfl⟩
  have bound := (limit_le_iff m 1 isTop).not
  rw [Nat.cast_one, mul_one, not_le, Nat.mul_one] at bound
  rw [bound, not_le]
  have power : Nat.pow 2 m.scale ≤ 2 ^ top := by
    refine Nat.pow_le_pow_right (by decide) ?_
    rw [← isTop]
    exact m.canonical.2.1
  have significand : m.significand ≤ 0x1FFFFFFFFFFFFF := Nat.le_of_lt_succ m.canonical.1
  have product := Nat.mul_le_mul significand power
  have positive := Nat.two_pow_pos top
  rw [units]
  omega

end Magnitude

namespace DigitShape

variable {shape : DigitShape} {whole fraction body : List Char}

structure ShowsNumber (shape : DigitShape) (body : List Char) : Prop where
  each : ∀ c ∈ body, Text.isDigit c = true ∨ c = ',' ∨ c = '.'
  point : body.count '.' ≤ 1
  digit : ∃ c ∈ body, Text.isDigit c = true
  commas : ∃ whole rest, body = groupDigits shape.grouping whole ++ rest ∧
    (∀ c ∈ whole, Text.isDigit c = true) ∧ ',' ∉ rest

theorem showsNumber_layOut (each : ∀ c ∈ whole ++ fraction, Text.isDigit c = true) :
    shape.ShowsNumber (shape.layOut whole fraction) := by
  obtain ⟨eachWhole, eachFraction⟩ := List.forall_mem_append.mp each
  have visible := wholeDigits_append_ne_nil shape whole fraction
  have eachShown : ∀ c ∈ shape.wholeDigits whole fraction, Text.isDigit c = true :=
    isDigit_of_mem_wholeDigits eachWhole
  have eachPlace : ∀ c ∈ dropZeros shape.minFraction fraction, Text.isDigit c = true :=
    isDigit_of_mem_dropZeros eachFraction
  rw [layOut_eq]
  generalize shape.wholeDigits whole fraction = shown at visible eachShown ⊢
  generalize dropZeros shape.minFraction fraction = places at visible eachPlace ⊢
  have plain : ∀ c ∈ shown, c ≠ ',' := fun c member => ne_comma_of_isDigit (eachShown c member)
  have ofGroup : ∀ c ∈ groupDigits shape.grouping shown, Text.isDigit c = true ∨ c = ',' := by
    intro c member
    by_cases comma : c = ','
    · exact .inr comma
    · exact .inl (eachShown c ((mem_groupDigits_iff plain comma).mp member))
  have noPoint : (groupDigits shape.grouping shown).count '.' = 0 := by
    rw [List.count_eq_zero]
    intro member
    exact (ofGroup '.' member).elim (by decide) (by decide)
  have noPointAfter : places.count '.' = 0 := by
    rw [List.count_eq_zero]
    intro member
    cases eachPlace _ member
  have ofRest : ∀ c ∈ (if places ≠ [] ∨ shape.barePoint = true then '.' :: places else []),
      c = '.' ∨ Text.isDigit c = true := by
    intro c member
    split at member
    · exact (List.mem_cons.mp member).imp_right (eachPlace c)
    · cases member
  constructor
  · intro c member
    rcases List.mem_append.mp member with group | rest
    · exact (ofGroup c group).imp_right .inl
    · exact (ofRest c rest).elim (.inr ∘ .inr) .inl
  · rw [List.count_append, noPoint]
    split
    · rw [List.count_cons_self, noPointAfter]
    · exact Nat.zero_le 1
  · obtain ⟨c, member⟩ := List.exists_mem_of_ne_nil _ visible
    rcases List.mem_append.mp member with group | place
    · have digit := eachShown c group
      exact ⟨c, List.mem_append_left _ ((mem_groupDigits_iff plain (plain c group)).mpr group), digit⟩
    · have some : places ≠ [] := List.ne_nil_of_mem place
      rw [if_pos (.inl some)]
      exact ⟨c, List.mem_append_right _ (List.mem_cons_of_mem _ place), eachPlace c place⟩
  · refine ⟨shown, _, rfl, eachShown, ?_⟩
    intro member
    exact (ofRest ',' member).elim (by decide) (by decide)

theorem wholeDigits_of_nonzero (first : whole.head? ≠ some '0') (some : whole ≠ []) :
    shape.wholeDigits whole fraction = Text.padded shape.minWhole whole := by
  have kept : whole.dropWhile (· == '0') = whole := by
    cases whole with
    | nil => exact absurd rfl some
    | cons c rest =>
      have other : ¬ (c == '0') = true := by simpa using first
      exact List.dropWhile_cons_of_neg other
  rw [wholeDigits, kept, if_neg]
  rintro ⟨empty, -⟩
  exact some (List.append_eq_nil_iff.mp empty).2

/-- The word for infinity is laid out like digits, and is none. -/
theorem not_showsNumber_infinite : ¬ shape.ShowsNumber (shape.layOut "inf".toList []) := by
  intro shows
  have shown : shape.wholeDigits "inf".toList [] = Text.padded shape.minWhole "inf".toList :=
    wholeDigits_of_nonzero (by decide) (by decide)
  have plain : ∀ c ∈ Text.padded shape.minWhole "inf".toList, c ≠ ',' := by
    intro c member
    rcases List.mem_append.mp member with zero | letter
    · rw [List.eq_of_mem_replicate zero]
      decide
    · rintro rfl
      revert letter
      decide
  have letter : 'i' ∈ Text.padded shape.minWhole "inf".toList :=
    List.mem_append_right _ (by decide)
  have member : 'i' ∈ shape.layOut "inf".toList [] := by
    rw [layOut_eq, shown]
    exact List.mem_append_left _ ((mem_groupDigits_iff plain (by decide)).mpr letter)
  exact absurd (shows.each 'i' member) (by decide)

end DigitShape

namespace NumberPattern

variable {p : NumberPattern} {m : Magnitude}

theorem multiplier_of_unmarked (percent : '%' ∉ p.before ++ p.after)
    (perMille : '‰' ∉ p.before ++ p.after)
    (multiplied : p.multiplier = multiplierOf (p.before ++ p.after)) : p.multiplier = 1 := by
  rw [multiplied, multiplierOf, if_neg percent, if_neg perMille]

theorem core_of_overflow (negative : Bool)
    (beyond : Magnitude.nearest? (m.units * p.multiplier) 1 = none) :
    p.core (.finite negative m) = p.shape.layOut "inf".toList [] := by
  have overflow : (Binary64.finite negative m).abs.scaleBy p.multiplier = .infinite false :=
    Binary64.scaleBy_overflow beyond
  show p.shape.body ((Binary64.finite negative m).abs.scaleBy p.multiplier) = _
  rw [overflow]
  rfl

theorem core_of_nearest (negative : Bool) {product : Magnitude}
    (nearest : Magnitude.nearest? (m.units * p.multiplier) 1 = some product) :
    p.core (.finite negative m) = p.shape.layOut (product.fixed p.shape.maxFraction).1
      (product.fixed p.shape.maxFraction).2 := by
  have inRange : (Binary64.finite negative m).abs.scaleBy p.multiplier = .finite false product :=
    Binary64.scaleBy_finite nearest
  exact (core_of_finite_product inRange).2

/-- A finite number is shown between the literal texts as a number just where its product with the
multiplier is one. Only percent and per mille signs can make it too large, and then letters stand in
the places of the digits. -/
theorem core_showsNumber_iff {text : String} (parsed : parse text = .ok p) (negative : Bool)
    (m : Magnitude) :
    let n := Binary64.finite negative m
    p.render n = (p.affixes n.isNegative).1 ++ p.core n ++ (p.affixes n.isNegative).2 ∧
      (p.shape.ShowsNumber (p.core n) ↔ m.value * p.multiplier < Magnitude.limit) ∧
      (Magnitude.limit ≤ m.value * p.multiplier →
        ('%' ∈ p.before ++ p.after ∨ '‰' ∈ p.before ++ p.after) ∧
          p.core n = p.shape.layOut "inf".toList []) := by
  intro n
  have beyondIff := m.nearest?_product_eq_none_iff p.multiplier
  refine ⟨render_eq_core Binary64.noConfusion, ?_, ?_⟩
  · rw [← not_le, ← beyondIff]
    cases nearest : Magnitude.nearest? (m.units * p.multiplier) 1 with
    | none =>
      rw [core_of_overflow negative nearest]
      exact iff_of_false DigitShape.not_showsNumber_infinite (not_not.mpr rfl)
    | some product =>
      rw [core_of_nearest negative nearest]
      exact iff_of_true (DigitShape.showsNumber_layOut (product.isDigit_of_mem_fixed _))
        (Option.some_ne_none _)
  · intro beyond
    refine ⟨?_, core_of_overflow negative (beyondIff.mpr beyond)⟩
    by_contra unmarked
    obtain ⟨percent, perMille⟩ := not_or.mp unmarked
    have multiplied := multiplier_of_read (parse_eq_ok_iff.mp parsed)
    rw [multiplier_of_unmarked percent perMille multiplied, Nat.cast_one, mul_one] at beyond
    exact absurd m.value_lt_limit (not_lt.mpr beyond)

theorem core_showsNumber_iff_of_percent :
    ∃ p m, parse "#,##0.0#%" = .ok p ∧ Binary64.ofRatio true 395 32 = .finite true m ∧
      m.value * p.multiplier < Magnitude.limit ∧
      p.render (.finite true m) = "-1,234.38%".toList ∧
      p.shape.ShowsNumber (p.core (.finite true m)) := by
  let p : NumberPattern := {
    before := []
    after := ['%']
    negative := none
    shape := {
      minWhole := 1
      minFraction := 1
      maxFraction := 2
      grouping := 3
      barePoint := false }
    multiplier := 100 }
  let m : Magnitude := ⟨395 * 2 ^ 44, 1025, by decide⟩
  have parsed : parse "#,##0.0#%" = .ok p := by decide +kernel
  have number : Binary64.ofRatio true 395 32 = .finite true m := by decide +kernel
  have rendered : p.render (.finite true m) = "-1,234.38%".toList := by decide +kernel
  have nearest : Magnitude.nearest? (m.units * p.multiplier) 1 ≠ none := by decide +kernel
  have within : m.value * p.multiplier < Magnitude.limit :=
    not_le.mp (mt (m.nearest?_product_eq_none_iff p.multiplier).mpr nearest)
  exact ⟨p, m, parsed, number, within, rendered, (core_showsNumber_iff parsed true m).2.1.mpr within⟩

theorem percent_of_large_number :
    let n := Binary64.ofNat (10 ^ 308)
    ∃ p, parse "0%" = .ok p ∧ p.render n = "inf%".toList ∧ ¬ p.shape.ShowsNumber (p.core n) := by
  intro n
  let p : NumberPattern := {
    before := []
    after := ['%']
    negative := none
    shape := {
      minWhole := 1
      minFraction := 0
      maxFraction := 0
      grouping := 0
      barePoint := false }
    multiplier := 100 }
  have parsed : parse "0%" = .ok p := by decide +kernel
  have rendered : p.render n = "inf%".toList := by decide +kernel
  have letters : p.core n = p.shape.layOut "inf".toList [] := by decide +kernel
  refine ⟨p, parsed, rendered, ?_⟩
  rw [letters]
  exact DigitShape.not_showsNumber_infinite

end NumberPattern

end ReportSheets
