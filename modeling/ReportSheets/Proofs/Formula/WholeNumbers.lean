import ReportSheets.Form.Field
import ReportSheets.Proofs.Formula.Dates
import ReportSheets.Proofs.Formula.Literals
import ReportSheets.Proofs.Formula.OwnName
import ReportSheets.Proofs.Number.Layout
import ReportSheets.Proofs.Number.Rounding

namespace ReportSheets

namespace Text

theorem ofList_integer (n : ℤ) : String.ofList (integer n) = toString n := by
  cases n with
  | ofNat n => rfl
  | negSucc n =>
    have text : toString (Int.negSucc n) = "-" ++ String.ofList (natural (n + 1)) := rfl
    rw [text, integer, if_pos (Int.negSucc_lt_zero n), Int.natAbs_negSucc, ← List.singleton_append,
      String.ofList_append]

/-- The digits of a number have no zero in front, but for the one of zero itself. -/
theorem padded_dropWhile_natural (n : ℕ) :
    padded 1 ((natural n).dropWhile (· == '0')) = natural n := by
  have each : ∀ c ∈ natural n, isDigit c = true := fun _ => isDigit_of_mem_natural
  have some : 1 ≤ (natural n).length := List.length_pos_of_ne_nil Nat.toDigits_ne_nil
  rcases Nat.eq_zero_or_pos n with rfl | positive
  · rfl
  · have digits := natural_naturalOf each ((naturalOf_natural n).symm ▸ positive)
    rw [naturalOf_natural] at digits
    rw [← digits, padded, Nat.sub_eq_zero_of_le some, List.replicate_zero, List.nil_append]

end Text

namespace Magnitude

variable {m : Magnitude} {n : ℕ}

theorem units_of_value (value : m.value = n) : m.units = n * unitsPerOne := by
  have unit : (unitsPerOne : ℚ) ≠ 0 := Nat.cast_ne_zero.mpr unitsPerOne_pos.ne'
  rw [Magnitude.value, div_eq_iff unit] at value
  exact_mod_cast value

theorem value_of_units (units : m.units = n * unitsPerOne) : m.value = n := by
  have unit : (unitsPerOne : ℚ) ≠ 0 := Nat.cast_ne_zero.mpr unitsPerOne_pos.ne'
  rw [Magnitude.value, div_eq_iff unit, units, Nat.cast_mul]

theorem zero_value : zero.value = (0 : ℕ) := by
  have none : zero.units = 0 * unitsPerOne := by
    rw [Nat.zero_mul]
    rfl
  exact value_of_units none

theorem nearest?_units (m : Magnitude) :
    ∃ product, nearest? (m.units * 1) 1 = some product ∧ product.units = m.units := by
  obtain ⟨small, bound, -⟩ := m.canonical
  have fits : m.significand.log2 ≤ 52 := log2_le_of_small small
  have room : m.significand.log2 + m.scale ≤ 2097 := by omega
  exact nearest?_exact small room Nat.one_pos

theorem fixed_zero (units : m.units = n * unitsPerOne) : m.fixed 0 = (Text.natural n, []) := by
  have rounded : roundHalfEven (n * unitsPerOne * 1) unitsPerOne = n := by
    rw [Nat.mul_one, roundHalfEven_mul n unitsPerOne_pos]
  rw [fixed, units, if_pos rfl, Nat.pow_eq, Nat.pow_zero, rounded, Nat.div_one]

end Magnitude

def NumberPattern.digit : NumberPattern where
  before := []
  after := []
  negative := none
  shape := {
    minWhole := 1
    minFraction := 0
    maxFraction := 0
    grouping := 0
    barePoint := false }
  multiplier := 1

namespace NumberPattern

variable {m : Magnitude} {n : ℕ}

theorem layOut_digit (n : ℕ) : digit.shape.layOut (Text.natural n) [] = Text.natural n := by
  have some : Text.natural n ≠ [] := Nat.toDigits_ne_nil
  have whole : digit.shape.wholeDigits (Text.natural n) [] = Text.natural n := by
    have padded : Text.padded digit.shape.minWhole ((Text.natural n).dropWhile (· == '0')) =
        Text.natural n := Text.padded_dropWhile_natural n
    simp only [DigitShape.wholeDigits, padded, some, false_and, if_false]
  rw [DigitShape.layOut_eq, whole]
  show groupDigits 0 (Text.natural n) ++ [] = _
  rw [groupDigits_zero, List.append_nil]

theorem body_digit (units : m.units = n * Magnitude.unitsPerOne) :
    digit.shape.body ((Binary64.finite false m).scaleBy digit.multiplier) = Text.natural n := by
  obtain ⟨product, nearest, same⟩ := m.nearest?_units
  show digit.shape.body ((Binary64.finite false m).scaleBy 1) = _
  rw [Binary64.scaleBy_finite nearest, DigitShape.body]
  show digit.shape.layOut (product.fixed 0).1 (product.fixed 0).2 = _
  rw [Magnitude.fixed_zero (same.trans units), layOut_digit]

end NumberPattern

theorem formatNumber_digit (n : Binary64) :
    formatNumber n "0" = .ok (String.ofList (NumberPattern.digit.render n)) := by
  have compiled : NumberPattern.parse (String.ofList (fieldPattern "0".toList)) =
      .ok NumberPattern.digit := by decide
  rw [formatNumber, if_neg (by decide), compiled]
  rfl

namespace Binary64

inductive IsWhole : Binary64 → ℤ → Prop
  | positive {m : Magnitude} {n : ℕ} (value : m.value = n) : IsWhole (.finite false m) n
  | negative {m : Magnitude} {n : ℕ} (value : m.value = n) : IsWhole (.finite true m) (-n)

variable {n : Binary64} {whole : ℤ}

theorem IsWhole.integer?_eq (isWhole : n.IsWhole whole) : n.integer? = some whole := by
  have quotient : ∀ w : ℕ, ((w * Magnitude.unitsPerOne : ℕ) : ℤ) / Magnitude.unitsPerOne = w := by
    intro w
    rw [← Int.natCast_ediv, Nat.mul_div_cancel w Magnitude.unitsPerOne_pos]
  cases isWhole with
  | @positive m w value =>
    rw [integer?, Magnitude.units_of_value value, if_pos (Nat.mul_mod_left w _)]
    simp only [Bool.false_eq_true, if_false, quotient]
  | @negative m w value =>
    rw [integer?, Magnitude.units_of_value value, if_pos (Nat.mul_mod_left w _)]
    simp only [if_true, quotient]

theorem isNegative_of_value {m : Magnitude} {w : ℕ} (value : m.value = w) :
    (finite true m).isNegative = decide (w ≠ 0) := by
  have units : m.significand * Nat.pow 2 m.scale = w * Magnitude.unitsPerOne :=
    Magnitude.units_of_value value
  have power : Nat.pow 2 m.scale ≠ 0 := (Nat.two_pow_pos m.scale).ne'
  have zero : m.significand = 0 ↔ w = 0 := by
    constructor
    · intro none
      rw [none, Nat.zero_mul] at units
      exact (Nat.mul_eq_zero.mp units.symm).resolve_right Magnitude.unitsPerOne_pos.ne'
    · intro none
      rw [none, Nat.zero_mul] at units
      exact (Nat.mul_eq_zero.mp units).resolve_right power
  rw [isNegative, Bool.true_and, Bool.eq_iff_iff, bne_iff_ne, decide_eq_true_iff]
  exact not_congr zero

theorem IsWhole.render_digit (isWhole : n.IsWhole whole) :
    NumberPattern.digit.render n = Text.integer whole := by
  have around : ∀ negative : Bool, NumberPattern.digit.affixes negative =
      (if negative then ['-'] else [], []) := by decide
  cases isWhole with
  | @positive m w value =>
    have body := NumberPattern.body_digit (Magnitude.units_of_value value)
    show [] ++ NumberPattern.digit.shape.body ((finite false m).scaleBy _) ++ [] = _
    rw [body, List.append_nil, List.nil_append, Text.integer,
      if_neg (Int.not_lt.mpr (Int.natCast_nonneg w)), Int.natAbs_natCast]
  | @negative m w value =>
    have body := NumberPattern.body_digit (Magnitude.units_of_value value)
    have sign := isNegative_of_value value
    rw [NumberPattern.render, sign, around]
    show (if decide (w ≠ 0) = true then ['-'] else []) ++
      NumberPattern.digit.shape.body ((finite false m).scaleBy _) ++ [] = _
    rw [body, List.append_nil, Text.integer, Int.natAbs_neg, Int.natAbs_natCast]
    rcases Nat.eq_zero_or_pos w with rfl | positive
    · rfl
    · have below : -(w : ℤ) < 0 := by omega
      rw [if_pos below, if_pos (decide_eq_true positive.ne')]
      rfl

theorem IsWhole.cellText_eq (isWhole : n.IsWhole whole) (small : whole.natAbs < 10 ^ 15) :
    n.cellText = Text.integer whole := by
  have below : isBelow integerLimit whole = true := decide_eq_true small
  rw [cellText, isWhole.integer?_eq]
  simp only [below, if_true]

end Binary64

inductive WholeLiteral : List Char → ℤ → Prop
  | unsigned {digits : List Char} (shape : Text.IsDigits digits) :
      WholeLiteral digits (Text.naturalOf digits)
  | positive {digits : List Char} (shape : Text.IsDigits digits) :
      WholeLiteral ('+' :: digits) (Text.naturalOf digits)
  | negative {digits : List Char} (shape : Text.IsDigits digits) :
      WholeLiteral ('-' :: digits) (-Text.naturalOf digits)

def significantDigits (literal : List Char) : List Char :=
  (withoutSign literal).dropWhile (· == '0')

namespace Binary64

variable {digits : List Char}

theorem isWhole_ofDecimal (negative : Bool) {n : ℕ} (small : n < 10 ^ 15) :
    (ofDecimal negative n 0).IsWhole (if negative then -n else n) := by
  have whole : ∀ {m : Magnitude}, m.value = n →
      (finite negative m).IsWhole (if negative then -n else n) := by
    intro m value
    cases negative with
    | false => exact .positive value
    | true => exact .negative value
  have length : (Text.natural n).length ≤ 15 :=
    (Nat.length_toDigits_le_iff (by decide) (by decide)).mpr small
  have low : ¬ ((Text.natural n).length : ℤ) + 0 < -330 := by omega
  have high : ¬ 310 < ((Text.natural n).length : ℤ) + 0 := by omega
  by_cases zero : n = 0
  · have number : ofDecimal negative n 0 = .finite negative .zero := if_pos (.inl zero)
    rw [number]
    exact whole (zero ▸ Magnitude.zero_value)
  · obtain ⟨m, nearest, units⟩ :=
      Magnitude.nearest?_whole (Nat.lt_trans small (by decide : 10 ^ 15 < 2 ^ 53))
    have number : ofDecimal negative n 0 = .finite negative m := by
      rw [ofDecimal, if_neg (not_or.mpr ⟨zero, low⟩), if_neg high]
      show ofRatio negative (n * 1) 1 = _
      rw [Nat.mul_one, ofRatio, nearest, Option.elim_some]
    rw [number]
    exact whole (Magnitude.value_of_units units)

theorem read?_digits (shape : Text.IsDigits digits) :
    read? digits = readUnsigned? false digits := by
  obtain ⟨c, rest, rfl⟩ := List.exists_cons_of_ne_nil shape.1
  have digit := shape.2 c List.mem_cons_self
  have plus : c ≠ '+' := by
    rintro rfl
    cases digit
  have minus : c ≠ '-' := by
    rintro rfl
    cases digit
  simp [read?, plus, minus]

end Binary64

theorem plainNumber?_whole {text : List Char} {whole : ℤ} (literal : WholeLiteral text whole)
    (short : (significantDigits text).length ≤ 15) :
    ∃ n, plainNumber? text = some n ∧ n.IsWhole whole ∧ whole.natAbs < 10 ^ 15 := by
  have bound : ∀ {digits : List Char}, Text.IsDigits digits →
      (digits.dropWhile (· == '0')).length ≤ 15 → Text.naturalOf digits < 10 ^ 15 := by
    intro digits shape short
    have each : ∀ c ∈ digits.dropWhile (· == '0'), Text.isDigit c = true := fun c member =>
      shape.2 c ((List.dropWhile_sublist _).subset member)
    rw [← Text.naturalOf_dropWhile_zeros]
    exact Nat.lt_of_lt_of_le (Text.naturalOf_lt each) (Nat.pow_le_pow_right (by decide) short)
  cases literal with
  | unsigned shape =>
    rw [significantDigits, (UnsignedNumber.whole shape).withoutSign_eq] at short
    have small := bound shape short
    have plain := isPlainNumber_iff.mpr (.unsigned (.whole shape))
    refine ⟨_, ?_, Binary64.isWhole_ofDecimal false small, small⟩
    rw [plainNumber?, if_pos plain, Binary64.read?_digits shape]
    exact Binary64.readUnsigned?_whole _ shape
  | @positive digits shape =>
    have small := bound shape short
    have plain := isPlainNumber_iff.mpr (.positive (.whole shape))
    refine ⟨_, ?_, Binary64.isWhole_ofDecimal false small, small⟩
    rw [plainNumber?, if_pos plain]
    exact Binary64.readUnsigned?_whole _ shape
  | @negative digits shape =>
    have small := bound shape short
    have plain := isPlainNumber_iff.mpr (.negative (.whole shape))
    refine ⟨_, ?_, Binary64.isWhole_ofDecimal true small, ?_⟩
    · rw [plainNumber?, if_pos plain]
      exact Binary64.readUnsigned?_whole _ shape
    · rw [Int.natAbs_neg, Int.natAbs_natCast]
      exact small

namespace WholeLiteral

variable {text : List Char} {whole : ℤ}

theorem sign_or_digit (literal : WholeLiteral text whole) :
    ∀ c ∈ text, c = '+' ∨ c = '-' ∨ Text.isDigit c = true := by
  intro c member
  cases literal with
  | unsigned shape => exact .inr (.inr (shape.2 c member))
  | positive shape =>
    rcases List.mem_cons.mp member with sign | digit
    · exact .inl sign
    · exact .inr (.inr (shape.2 c digit))
  | negative shape =>
    rcases List.mem_cons.mp member with sign | digit
    · exact .inr (.inl sign)
    · exact .inr (.inr (shape.2 c digit))

theorem not_mem (literal : WholeLiteral text whole) {mark : Char}
    (other : mark ≠ '+' ∧ mark ≠ '-' ∧ Text.isDigit mark = false) : mark ∉ text := by
  intro member
  rcases literal.sign_or_digit mark member with plus | minus | digit
  · exact other.1 plus
  · exact other.2.1 minus
  · rw [other.2.2] at digit
    cases digit

theorem ne_empty {text : String} (literal : WholeLiteral text.toList whole) : text ≠ "" := by
  rintro rfl
  generalize empty : "".toList = text at literal
  cases literal with
  | unsigned shape => exact shape.1 empty.symm
  | positive shape => cases empty
  | negative shape => cases empty

theorem isToken (literal : WholeLiteral text whole) : Text.IsToken Expr.dividers text := by
  have solid : Text.Solid text := by
    intro c member
    rcases literal.sign_or_digit c member with rfl | rfl | digit
    · decide
    · decide
    · have bounds := Text.isDigit_iff.mp digit
      exact Text.isBlank_of_visible (by omega) (by omega)
  refine ⟨solid.trimmed, Text.paired_of_unquoted (literal.not_mem (by decide)), ?_⟩
  intro mark among outside
  have free : mark ≠ '+' ∧ mark ≠ '-' ∧ Text.isDigit mark = false := by
    simp only [Expr.dividers, List.mem_cons, List.not_mem_nil, or_false] at among
    rcases among with rfl | rfl | rfl <;> decide
  exact literal.not_mem free (Text.mem_of_mem_outside outside)

theorem literal_eq {b : Binding} {literal : String} {n : Binary64}
    (shape : WholeLiteral literal.toList whole) (foreign : literal ≠ b.field)
    (read : plainNumber? literal.toList = some n) : b.literal literal = .number n := by
  have bare : unquoted? literal.toList = none := by
    have unquoted : '"' ∉ literal.toList := shape.not_mem (by decide)
    unfold unquoted?
    split
    · rename_i front
      rw [front] at unquoted
      exact absurd List.mem_cons_self unquoted
    · rfl
  rw [Binding.literal, if_neg foreign, bare, read]

end WholeLiteral

namespace Field

variable {field : Field} {literal : String} {whole : ℤ}

theorem cellText_of_parse {e : Expr} {result : Value} (some : field.formula ≠ "")
    (parsed : Expr.parse field.formula = .ok e) {value : String}
    (evaluated : e.evaluate ⟨field.name, value⟩ = .ok result) :
    field.cellText value = .ok result.cellText := by
  rw [cellText, if_neg some, parsed]
  show (e.evaluate ⟨field.name, value⟩).bind _ = _
  rw [evaluated]
  rfl

theorem cellText_of_literal (shape : WholeLiteral literal.toList whole)
    (short : (significantDigits literal.toList).length ≤ 15) (own : field.formula = literal)
    (foreign : field.name ≠ literal) (value : String) :
    field.cellText value = .ok (toString whole) := by
  obtain ⟨n, read, isWhole, small⟩ := plainNumber?_whole shape short
  have some : field.formula ≠ "" := by
    rw [own]
    exact shape.ne_empty
  have parsed : Expr.parse field.formula = .ok (.literal literal) :=
    Expr.parse_of_written (.literal shape.isToken) (by rw [own, Expr.written])
  have evaluated : (Expr.literal literal).evaluate ⟨field.name, value⟩ = .ok (.number n) := by
    rw [Expr.evaluate, shape.literal_eq foreign.symm read]
  rw [cellText_of_parse some parsed evaluated, Value.cellText, isWhole.cellText_eq small,
    Text.ofList_integer]

theorem cellText_of_format (shape : WholeLiteral literal.toList whole)
    (short : (significantDigits literal.toList).length ≤ 15)
    (own : field.formula = "FORMAT(" ++ literal ++ ",\"0\")") (foreign : field.name ≠ literal)
    (other : field.name ≠ "\"0\"") (value : String) :
    field.cellText value = .ok (toString whole) := by
  obtain ⟨n, read, isWhole, small⟩ := plainNumber?_whole shape short
  have some : field.formula ≠ "" := by simp [own]
  have sound : (Expr.call "FORMAT" [.literal literal, .literal "\"0\""]).Sound Expr.dividers
      Expr.dividers := by
    refine .call (by decide) (by decide) (by simp) ?_
    intro arg member
    rcases List.mem_cons.mp member with rfl | member
    · exact .literal shape.isToken
    · rw [List.mem_singleton.mp member]
      exact .literal (by decide)
  have parsed : Expr.parse field.formula =
      .ok (.call "FORMAT" [.literal literal, .literal "\"0\""]) := by
    refine Expr.parse_of_written sound ?_
    simp [own, Expr.written, Expr.writtenArgs]
  have number : Binding.literal ⟨field.name, value⟩ literal = .number n :=
    shape.literal_eq foreign.symm read
  have pattern : Binding.literal ⟨field.name, value⟩ "\"0\"" = .text "0" := by
    rw [Binding.literal, if_neg other.symm]
    rfl
  have evaluated : (Expr.call "FORMAT" [.literal literal, .literal "\"0\""]).evaluate
      ⟨field.name, value⟩ = .ok (.text (toString whole)) := by
    have shown : (formatNumber n "0").map Value.text = .ok (.text (toString whole)) := by
      rw [formatNumber_digit, isWhole.render_digit, Text.ofList_integer]
      rfl
    simp only [Expr.evaluate, Expr.evaluateAll, number, pattern]
    exact shown
  rw [cellText_of_parse some parsed evaluated, Value.cellText]

end Field

/-- A whole number of at most fifteen digits has one text, and every way to it gives that text: the
cell of the number, the number under the pattern of one digit, the literal, and the literal under
the pattern. -/
theorem whole_numbers_agree :
    (∀ {n : Binary64} {whole : ℤ}, n.IsWhole whole → whole.natAbs < 10 ^ 15 →
      formatNumber n "0" = .ok (Value.number n).cellText ∧
      (Value.number n).cellText = toString whole) ∧
    ∀ {literal : String} {whole : ℤ}, WholeLiteral literal.toList whole →
      (significantDigits literal.toList).length ≤ 15 → ∀ {field : Field}, field.name ≠ literal →
      (field.formula = literal → ∀ value, field.cellText value = .ok (toString whole)) ∧
      (field.formula = "FORMAT(" ++ literal ++ ",\"0\")" → field.name ≠ "\"0\"" →
        ∀ value, field.cellText value = .ok (toString whole)) := by
  constructor
  · intro n whole isWhole small
    have cell : (Value.number n).cellText = toString whole := by
      rw [Value.cellText, isWhole.cellText_eq small, Text.ofList_integer]
    refine ⟨?_, cell⟩
    rw [formatNumber_digit, isWhole.render_digit, Text.ofList_integer, cell]
  · intro literal whole shape short field foreign
    exact ⟨fun own => Field.cellText_of_literal shape short own foreign,
      fun own other => Field.cellText_of_format shape short own foreign other⟩

/-- Negative zero, and a literal with a sign and zeros in front. -/
theorem whole_numbers_agree_on_zero_and_seven :
    (Binary64.finite true .zero).IsWhole 0 ∧
    formatNumber (.finite true .zero) "0" = .ok "0" ∧
    (Value.number (.finite true .zero)).cellText = "0" ∧
    (∀ value, (⟨"A", "B1", "-007"⟩ : Field).cellText value = .ok "-7") ∧
    ∀ value, (⟨"A", "B1", "FORMAT(-007,\"0\")"⟩ : Field).cellText value = .ok "-7" := by
  have zero : (Binary64.finite true .zero).IsWhole 0 := .negative Magnitude.zero_value
  have digits : Text.IsDigits ['0', '0', '7'] := by decide
  have seven : WholeLiteral "-007".toList (-7) := .negative digits
  have short : (significantDigits "-007".toList).length ≤ 15 := by decide
  obtain ⟨formatted, cell⟩ := whole_numbers_agree.1 zero (by decide)
  have other : "A" ≠ "-007" := by decide
  rw [cell] at formatted
  refine ⟨zero, formatted, cell, ?_, ?_⟩
  · exact (whole_numbers_agree.2 seven short other).1 rfl
  · exact (whole_numbers_agree.2 seven short other).2 rfl (by decide)

end ReportSheets
