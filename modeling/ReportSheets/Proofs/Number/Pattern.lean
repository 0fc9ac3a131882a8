import ReportSheets.Number.Rendering
import ReportSheets.Proofs.Outcome
import ReportSheets.Proofs.Text.Words

namespace ReportSheets

namespace DigitShape

variable {run : List Char} {shape : DigitShape}

def wholePart (run : List Char) : List Char := ((Text.cutAt '.' run).map (·.1)).getD run

def fractionPart? (run : List Char) : Option (List Char) := (Text.cutAt '.' run).map (·.2)

theorem read_eq (run : List Char) :
    read run =
      if '.' ∈ (fractionPart? run).getD [] then .error .secondPoint
      else
        (countWhole 0 (wholePart run)).bind fun minWhole =>
          (groupSize (wholePart run)).bind fun grouping =>
            (countFraction 0 0 ((fractionPart? run).getD [])).bind fun counts =>
              .ok {
                minWhole
                minFraction := counts.1
                maxFraction := counts.2
                grouping
                barePoint := fractionPart? run = some [] } := by
  unfold read wholePart fractionPart?
  cases Text.cutAt '.' run <;> rfl

theorem read_eq_ok_iff :
    read run = .ok shape ↔
      '.' ∉ (fractionPart? run).getD [] ∧
        countWhole 0 (wholePart run) = .ok shape.minWhole ∧
        groupSize (wholePart run) = .ok shape.grouping ∧
        countFraction 0 0 ((fractionPart? run).getD []) =
          .ok (shape.minFraction, shape.maxFraction) ∧
        shape.barePoint = decide (fractionPart? run = some []) := by
  rw [read_eq]
  constructor
  · intro done
    split at done
    · cases done
    · rename_i single
      obtain ⟨minWhole, counted, done⟩ := of_bind_ok done
      obtain ⟨grouping, grouped, done⟩ := of_bind_ok done
      obtain ⟨counts, fraction, done⟩ := of_bind_ok done
      cases done
      exact ⟨single, counted, grouped, fraction, rfl⟩
  · rintro ⟨single, counted, grouped, fraction, bare⟩
    rw [if_neg single, counted, grouped, fraction, ← bare]
    rfl

theorem countFraction_le {least most : Nat} {counts : Nat × Nat} (ordered : least ≤ most)
    (done : countFraction least most run = .ok counts) : counts.1 ≤ counts.2 := by
  fun_induction countFraction least most run with
  | case1 least most =>
    cases done
    exact ordered
  | case2 => cases done
  | case3 least most rest _ ih => exact ih (Nat.succ_le_succ ordered) done
  | case4 least most rest ih => exact ih (Nat.le_succ_of_le ordered) done
  | case5 => cases done

theorem minFraction_le_maxFraction (done : read run = .ok shape) :
    shape.minFraction ≤ shape.maxFraction := by
  obtain ⟨-, -, -, fraction, -⟩ := read_eq_ok_iff.1 done
  exact countFraction_le (Nat.le_refl 0) fraction

end DigitShape

namespace NumberPattern

variable {pattern : List Char} {p : NumberPattern}

def positivePart (pattern : List Char) : List Char :=
  ((Text.cutAt ';' pattern).map (·.1)).getD pattern

def negativePart? (pattern : List Char) : Option (List Char) := (Text.cutAt ';' pattern).map (·.2)

def literalTexts (subpattern : List Char) : Except PatternFault (List Char × List Char) :=
  (AffixedDigits.read subpattern).map fun parts => (parts.before, parts.after)

theorem read_eq (some : pattern ≠ []) :
    read pattern =
      (AffixedDigits.read (positivePart pattern)).bind fun parts =>
        (DigitShape.read parts.digits).bind fun shape =>
          ((negativePart? pattern).mapM literalTexts).bind fun negative =>
            .ok {
              before := parts.before
              after := parts.after
              negative
              shape
              multiplier := multiplierOf (parts.before ++ parts.after) } := by
  unfold read positivePart negativePart?
  rw [if_neg some]
  cases Text.cutAt ';' pattern with
  | none => rfl
  | some cut =>
    simp only [Option.map_some, Option.getD_some, Option.mapM_some, literalTexts]
    congr 1
    funext parts
    congr 1
    funext shape
    cases AffixedDigits.read cut.2 <;> rfl

theorem read_eq_ok_iff :
    read pattern = .ok p ↔
      pattern ≠ [] ∧
        ∃ parts, AffixedDigits.read (positivePart pattern) = .ok parts ∧
          DigitShape.read parts.digits = .ok p.shape ∧
          (negativePart? pattern).mapM literalTexts = .ok p.negative ∧
          p.before = parts.before ∧ p.after = parts.after ∧
          p.multiplier = multiplierOf (parts.before ++ parts.after) := by
  by_cases some : pattern = []
  · subst some
    constructor
    · intro done
      cases done
    · intro accepted
      exact absurd rfl accepted.1
  rw [read_eq some]
  constructor
  · intro done
    obtain ⟨parts, affixed, done⟩ := of_bind_ok done
    obtain ⟨shape, shaped, done⟩ := of_bind_ok done
    obtain ⟨negative, other, done⟩ := of_bind_ok done
    cases done
    exact ⟨some, parts, affixed, shaped, other, rfl, rfl, rfl⟩
  · rintro ⟨-, parts, affixed, shaped, other, before, after, multiplier⟩
    obtain ⟨_, _, negative, shape, _⟩ := p
    cases before
    cases after
    cases multiplier
    rw [affixed]
    show (DigitShape.read parts.digits).bind _ = _
    rw [shaped]
    show ((negativePart? pattern).mapM literalTexts).bind _ = _
    rw [other]
    rfl

theorem multiplier_of_read (done : read pattern = .ok p) :
    p.multiplier = multiplierOf (p.before ++ p.after) := by
  obtain ⟨-, parts, -, -, -, before, after, multiplier⟩ := read_eq_ok_iff.1 done
  rw [multiplier, before, after]

theorem read_of_positivePart_error {fault : PatternFault} (some : pattern ≠ [])
    (failed : AffixedDigits.read (positivePart pattern) = .error fault) :
    read pattern = .error fault := by
  rw [read_eq some, failed]
  rfl

theorem positivePart_joinedAt {positive : List Char} (single : ';' ∉ positive)
    (negative : Option (List Char)) :
    positivePart (Text.joinedAt ';' positive negative) = positive := by
  rw [positivePart, Text.cutAt_joinedAt single]
  cases negative <;> rfl

theorem negativePart?_joinedAt {positive : List Char} (single : ';' ∉ positive)
    (negative : Option (List Char)) :
    negativePart? (Text.joinedAt ';' positive negative) = negative := by
  rw [negativePart?, Text.cutAt_joinedAt single, Option.map_map]
  exact Option.map_id'

theorem positivePart_append {rest : List Char} (single : ';' ∉ pattern) :
    positivePart (pattern ++ ';' :: rest) = pattern := positivePart_joinedAt single (some rest)

theorem read_single_eq_ok_iff (single : ';' ∉ pattern) :
    read pattern = .ok p ↔
      pattern ≠ [] ∧
        ∃ parts, AffixedDigits.read pattern = .ok parts ∧
          DigitShape.read parts.digits = .ok p.shape ∧ p.negative = none ∧
          p.before = parts.before ∧ p.after = parts.after ∧
          p.multiplier = multiplierOf (parts.before ++ parts.after) := by
  have whole : positivePart pattern = pattern := positivePart_joinedAt single none
  have alone : negativePart? pattern = none := negativePart?_joinedAt single none
  have other : (none : Option (List Char)).mapM literalTexts = .ok none := rfl
  rw [read_eq_ok_iff, whole, alone, other]
  simp only [Except.ok.injEq, eq_comm]

theorem negative_eq_none_iff (done : read pattern = .ok p) :
    p.negative = none ↔ ';' ∉ pattern := by
  obtain ⟨positive, negative, single, rfl⟩ := Text.exists_joinedAt ';' pattern
  obtain ⟨-, parts, -, -, others, -⟩ := read_eq_ok_iff.1 done
  rw [negativePart?_joinedAt single] at others
  cases negative with
  | none =>
    have own : none = p.negative := Except.ok.inj others
    exact iff_of_true own.symm single
  | some second =>
    rw [Option.mapM_some] at others
    obtain ⟨texts, -, own⟩ := exists_of_map_ok others
    rw [← own]
    exact iff_of_false (Option.some_ne_none _)
      (not_not.mpr (List.mem_append_right _ List.mem_cons_self))

theorem parse_eq (text : String) :
    parse text = (read text.toList).mapError (Error.pattern text) := by
  unfold parse
  cases read text.toList <;> rfl

theorem parse_eq_ok_iff {text : String} : parse text = .ok p ↔ read text.toList = .ok p := by
  rw [parse_eq]
  cases read text.toList with
  | ok compiled => simp only [Except.mapError, Except.ok.injEq]
  | error fault =>
    constructor <;> intro done <;> cases done

end NumberPattern

end ReportSheets
