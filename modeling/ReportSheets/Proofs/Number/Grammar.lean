import ReportSheets.Proofs.Number.Affixes
import ReportSheets.Proofs.Number.Pattern

namespace ReportSheets

/-- A run of placeholders, with what stands before the last comma of its whole part and what stands
after its point, where it has them. -/
structure DigitRun where
  leading : Option (List Char)
  last : List Char
  fraction : Option (List Char)

namespace DigitRun

def whole (run : DigitRun) : List Char :=
  match run.leading with
  | none => run.last
  | some leading => leading ++ ',' :: run.last

def text (run : DigitRun) : List Char := Text.joinedAt '.' run.whole run.fraction

def fractionDigits (run : DigitRun) : List Char := run.fraction.getD []

def Ordered (whole : List Char) : Prop :=
  whole.Pairwise fun first later => first = '0' → later ≠ '#'

structure WellFormed (run : DigitRun) : Prop where
  onePoint : '.' ∉ run.whole ∧ '.' ∉ run.fractionDigits
  lastComma : ',' ∉ run.last
  closed : run.leading ≠ none → run.last ≠ []
  ordered : Ordered run.whole
  fraction : ∃ required optional,
    run.fractionDigits = List.replicate required '0' ++ List.replicate optional '#'

def shape (run : DigitRun) : DigitShape where
  minWhole := run.whole.count '0'
  minFraction := run.fractionDigits.count '0'
  maxFraction := run.fractionDigits.length
  grouping := if run.leading = none then 0 else run.last.length
  barePoint := run.fraction = some []

variable {c : Char} {rest : List Char}

theorem ordered_required : Ordered ('0' :: rest) ↔ '#' ∉ rest ∧ Ordered rest := by
  rw [Ordered, List.pairwise_cons]
  refine and_congr_left fun _ => ?_
  constructor
  · exact fun each member => each _ member rfl rfl
  · rintro absent c member - rfl
    exact absent member

theorem ordered_other (other : c ≠ '0') : Ordered (c :: rest) ↔ Ordered rest := by
  rw [Ordered, List.pairwise_cons]
  exact and_iff_right fun _ _ same => absurd same other

end DigitRun

namespace DigitShape

open DigitRun (Ordered ordered_required ordered_other)

variable {text whole fraction : List Char} {shape : DigitShape}

theorem countWhole_eq_ok_iff {required count : Nat} :
    countWhole required whole = .ok count ↔
      (required ≠ 0 → '#' ∉ whole) ∧ Ordered whole ∧ count = required + whole.count '0' := by
  fun_induction countWhole required whole with
  | case1 required => simp [Ordered, eq_comm]
  | case2 required rest ih =>
    have total : required + 1 + rest.count '0' = required + ('0' :: rest).count '0' := by
      rw [List.count_cons_self]
      omega
    rw [ih, ordered_required, total]
    simp
    tauto
  | case3 rest ih =>
    rw [ih, ordered_other (by decide), List.count_cons_of_ne (by decide)]
    simp
  | case4 required rest some =>
    simp [some]
  | case5 required c rest zero hash ih =>
    have absent : '#' ∉ c :: rest ↔ '#' ∉ rest := by
      rw [List.mem_cons, not_or]
      exact and_iff_right fun same => hash same.symm
    rw [ih, ordered_other zero, List.count_cons_of_ne zero, absent]

theorem groupSize_ungrouped (none : ',' ∉ whole) : groupSize whole = .ok 0 := if_neg none

theorem groupSize_grouped {leading last : List Char} (lastComma : ',' ∉ last) (visible : last ≠ []) :
    groupSize (leading ++ ',' :: last) = .ok last.length := by
  have each : ∀ c ∈ last.reverse, (c != ',') = true := by
    intro c member
    rw [bne_iff_ne]
    rintro rfl
    exact lastComma (List.mem_reverse.mp member)
  have stops : ∀ c, (',' :: leading.reverse).head? = some c → (c != ',') = false := by
    rintro c ⟨⟩
    rfl
  have cut := Text.takeWhile_append_stop each stops
  have member : ',' ∈ leading ++ ',' :: last := List.mem_append_right _ List.mem_cons_self
  have group : (leading ++ ',' :: last).reverse = last.reverse ++ ',' :: leading.reverse := by
    simp
  have size : last.length ≠ 0 := List.length_pos_iff.mpr visible |>.ne'
  rw [groupSize, if_pos member, group, cut.1, List.length_reverse]
  exact if_neg size

theorem groupSize_open (leading : List Char) :
    groupSize (leading ++ [',']) = .error .groupingAtEnd := by
  have member : ',' ∈ leading ++ [','] := List.mem_append_right _ List.mem_cons_self
  rw [groupSize, if_pos member, List.reverse_append]
  rfl

theorem exists_last_comma (member : ',' ∈ whole) :
    ∃ leading last, ',' ∉ last ∧ whole = leading ++ ',' :: last := by
  obtain ⟨last, leading, split, lastComma⟩ :=
    List.eq_append_cons_of_mem (List.mem_reverse.mpr member)
  refine ⟨leading.reverse, last.reverse, fun inLast => lastComma (List.mem_reverse.mp inLast), ?_⟩
  have whole := congrArg List.reverse split
  rw [List.reverse_reverse] at whole
  rw [whole]
  simp

/-- The first of the places after the point is a required one, or else all of them are optional. -/
theorem of_cons_eq_places {c : Char} {rest : List Char} {required optional : Nat}
    (whole : c :: rest = List.replicate required '0' ++ List.replicate optional '#') :
    (∃ others, c = '0' ∧ required = others + 1 ∧
      rest = List.replicate others '0' ++ List.replicate optional '#') ∨
    ∃ others, c = '#' ∧ required = 0 ∧ optional = others + 1 ∧
      rest = List.replicate 0 '0' ++ List.replicate others '#' := by
  cases required with
  | succ others =>
    cases whole
    exact .inl ⟨others, rfl, rfl, rfl⟩
  | zero =>
    cases optional with
    | zero => cases whole
    | succ others =>
      cases whole
      exact .inr ⟨others, rfl, rfl, rfl, rfl⟩

theorem countFraction_eq_ok_iff {least most : Nat} {counts : Nat × Nat} (within : least ≤ most) :
    countFraction least most fraction = .ok counts ↔
      ∃ required optional,
        fraction = List.replicate required '0' ++ List.replicate optional '#' ∧
        (least < most → required = 0) ∧ counts = (least + required, most + required + optional) := by
  fun_induction countFraction least most fraction with
  | case1 least most =>
    constructor
    · rintro ⟨⟩
      exact ⟨0, 0, rfl, fun _ => rfl, rfl⟩
    · rintro ⟨required, optional, none, -, rfl⟩
      cases required <;> cases optional <;> cases none
      rfl
  | case2 least most rest begun =>
    constructor
    · rintro ⟨⟩
    · rintro ⟨required, optional, whole, none, -⟩
      obtain rfl := none begun
      rcases of_cons_eq_places whole with ⟨_, -, more, -⟩ | ⟨_, other, -⟩
      · cases more
      · cases other
  | case3 least most rest notYet ih =>
    have same : least = most := by omega
    rw [ih (by omega)]
    constructor
    · rintro ⟨required, optional, rfl, -, rfl⟩
      refine ⟨required + 1, optional, rfl, fun less => absurd less notYet, ?_⟩
      rw [Prod.mk.injEq]
      omega
    · rintro ⟨required, optional, whole, -, rfl⟩
      rcases of_cons_eq_places whole with ⟨others, -, rfl, rfl⟩ | ⟨_, other, -⟩
      · refine ⟨others, optional, rfl, by omega, ?_⟩
        rw [Prod.mk.injEq]
        omega
      · cases other
  | case4 least most rest ih =>
    rw [ih (by omega)]
    constructor
    · rintro ⟨required, optional, rfl, none, rfl⟩
      obtain rfl := none (by omega)
      refine ⟨0, optional + 1, rfl, fun _ => rfl, ?_⟩
      rw [Prod.mk.injEq]
      omega
    · rintro ⟨required, optional, whole, -, rfl⟩
      rcases of_cons_eq_places whole with ⟨_, other, -⟩ | ⟨others, -, rfl, rfl, rfl⟩
      · cases other
      · refine ⟨0, others, rfl, fun _ => rfl, ?_⟩
        rw [Prod.mk.injEq]
        omega
  | case5 least most c rest zero hash =>
    constructor
    · rintro ⟨⟩
    · rintro ⟨required, optional, whole, -⟩
      rcases of_cons_eq_places whole with ⟨_, required, -⟩ | ⟨_, optional, -⟩
      · exact absurd required zero
      · exact absurd optional hash

theorem groupSize_whole (run : DigitRun) (formed : run.WellFormed) :
    groupSize run.whole = .ok run.shape.grouping := by
  obtain ⟨leading, last, fraction⟩ := run
  cases leading with
  | none => exact groupSize_ungrouped formed.lastComma
  | some leading => exact groupSize_grouped formed.lastComma (formed.closed (Option.some_ne_none _))

theorem exists_leading {size : Nat} (done : groupSize whole = .ok size) :
    ∃ run : DigitRun, run.whole = whole ∧ ',' ∉ run.last ∧ (run.leading ≠ none → run.last ≠ []) := by
  by_cases member : ',' ∈ whole
  · obtain ⟨leading, last, lastComma, rfl⟩ := exists_last_comma member
    refine ⟨⟨some leading, last, none⟩, rfl, lastComma, ?_⟩
    rintro - rfl
    rw [groupSize_open] at done
    cases done
  · exact ⟨⟨none, whole, none⟩, rfl, member, fun grouped => absurd rfl grouped⟩

theorem wholePart_joinedAt (missing : '.' ∉ whole) (fraction : Option (List Char)) :
    wholePart (Text.joinedAt '.' whole fraction) = whole := by
  rw [wholePart, Text.cutAt_joinedAt missing]
  cases fraction <;> rfl

theorem fractionPart?_joinedAt (missing : '.' ∉ whole) (fraction : Option (List Char)) :
    fractionPart? (Text.joinedAt '.' whole fraction) = fraction := by
  rw [fractionPart?, Text.cutAt_joinedAt missing, Option.map_map]
  exact Option.map_id'

theorem counts_of_fraction (required optional : Nat) :
    (List.replicate required '0' ++ List.replicate optional '#').count '0' = required ∧
      (List.replicate required '0' ++ List.replicate optional '#').length =
        required + optional := by
  simp [List.count_replicate]

theorem read_of_wellFormed {run : DigitRun} (formed : run.WellFormed) : read run.text = .ok run.shape := by
  obtain ⟨required, optional, spelled⟩ := formed.fraction
  obtain ⟨minFraction, maxFraction⟩ := counts_of_fraction required optional
  rw [read_eq_ok_iff, DigitRun.text, wholePart_joinedAt formed.onePoint.1,
    fractionPart?_joinedAt formed.onePoint.1]
  refine ⟨formed.onePoint.2, ?_, groupSize_whole run formed, ?_, rfl⟩
  · exact countWhole_eq_ok_iff.2
      ⟨fun some => absurd rfl some, formed.ordered, (Nat.zero_add _).symm⟩
  · refine (countFraction_eq_ok_iff (Nat.le_refl 0)).mpr
      ⟨required, optional, spelled, fun less => absurd less (Nat.lt_irrefl 0), ?_⟩
    show (run.fractionDigits.count '0', run.fractionDigits.length) = _
    rw [spelled, minFraction, maxFraction, Nat.zero_add]

theorem exists_run (done : read text = .ok shape) :
    ∃ run : DigitRun, run.WellFormed ∧ text = run.text := by
  obtain ⟨whole, fraction, missing, rfl⟩ := Text.exists_joinedAt '.' text
  rw [read_eq_ok_iff, wholePart_joinedAt missing, fractionPart?_joinedAt missing] at done
  obtain ⟨single, counted, grouped, places, -⟩ := done
  obtain ⟨-, ordered, -⟩ := countWhole_eq_ok_iff.1 counted
  obtain ⟨required, optional, spelled, -⟩ := (countFraction_eq_ok_iff (Nat.le_refl 0)).mp places
  obtain ⟨⟨leading, last, _⟩, joined, lastComma, closed⟩ := exists_leading grouped
  let run : DigitRun := ⟨leading, last, fraction⟩
  have wholeIs : run.whole = whole := joined
  refine ⟨run, ⟨⟨wholeIs ▸ missing, single⟩, lastComma, closed, wholeIs ▸ ordered, required,
    optional, spelled⟩, ?_⟩
  rw [DigitRun.text, wholeIs]

end DigitShape

namespace NumberPattern

structure Parts where
  before : List Char
  run : DigitRun
  after : List Char
  negative : Option AffixedDigits

/-- The pattern with these parts. Of the second subpattern only the literal texts count. -/
def Parts.pattern (parts : Parts) : NumberPattern where
  before := parts.before
  after := parts.after
  negative := parts.negative.map fun second => (second.before, second.after)
  shape := parts.run.shape
  multiplier := multiplierOf (parts.before ++ parts.after)

structure Parts.Spelled (parts : Parts) (pattern : List Char) : Prop where
  visible : pattern ≠ []
  formed : parts.run.WellFormed
  joined : ∃ positive negative, ';' ∉ positive ∧ pattern = Text.joinedAt ';' positive negative ∧
    AffixedDigits.Spelled positive ⟨parts.before, parts.run.text, parts.after⟩ ∧
    Option.Rel AffixedDigits.Spelled negative parts.negative

variable {pattern : List Char} {p : NumberPattern} {parts : Parts}

theorem literalTexts_eq_ok_iff {subpattern : List Char} {texts : List Char × List Char} :
    literalTexts subpattern = .ok texts ↔
      ∃ parts, AffixedDigits.Spelled subpattern parts ∧ (parts.before, parts.after) = texts := by
  rw [literalTexts, map_eq_ok_iff]
  simp only [AffixedDigits.read_eq_ok_iff]

theorem mapM_literalTexts {negative : Option (List Char)} {second : Option AffixedDigits}
    (spelled : Option.Rel AffixedDigits.Spelled negative second) :
    negative.mapM literalTexts = .ok (second.map fun parts => (parts.before, parts.after)) := by
  cases spelled with
  | none => rfl
  | some spelled =>
    rw [Option.mapM_some, literalTexts_eq_ok_iff.2 ⟨_, spelled, rfl⟩]
    rfl

theorem exists_second {negative : Option (List Char)} {texts : Option (List Char × List Char)}
    (done : negative.mapM literalTexts = .ok texts) :
    ∃ second, Option.Rel AffixedDigits.Spelled negative second := by
  cases negative with
  | none => exact ⟨none, .none⟩
  | some subpattern =>
    rw [Option.mapM_some] at done
    obtain ⟨texts, read, -⟩ := exists_of_map_ok done
    obtain ⟨second, spelled, -⟩ := literalTexts_eq_ok_iff.1 read
    exact ⟨some second, .some spelled⟩

theorem read_spelled (spelled : parts.Spelled pattern) : read pattern = .ok parts.pattern := by
  obtain ⟨positive, negative, single, rfl, first, second⟩ := spelled.joined
  rw [read_eq_ok_iff, positivePart_joinedAt single, negativePart?_joinedAt single]
  exact ⟨spelled.visible, _, AffixedDigits.read_eq_ok_iff.mpr first,
    DigitShape.read_of_wellFormed spelled.formed, mapM_literalTexts second, rfl, rfl, rfl⟩

theorem exists_parts (done : read pattern = .ok p) : ∃ parts : Parts, parts.Spelled pattern := by
  obtain ⟨positive, negative, single, rfl⟩ := Text.exists_joinedAt ';' pattern
  rw [read_eq_ok_iff, positivePart_joinedAt single, negativePart?_joinedAt single] at done
  obtain ⟨visible, ⟨before, digits, after⟩, first, shaped, others, -⟩ := done
  obtain ⟨run, formed, rfl⟩ := DigitShape.exists_run shaped
  obtain ⟨second, spelled⟩ := exists_second others
  exact ⟨⟨before, run, after, second⟩, visible, formed, positive, negative, single, rfl,
    AffixedDigits.read_eq_ok_iff.mp first, spelled⟩

/-- A pattern is accepted exactly when it is written from parts, which then are what it is compiled
to, and refused for its format otherwise. -/
theorem parse_eq_ok_iff_spelled (text : String) :
    (∀ p, parse text = .ok p ↔ ∃ parts : Parts, parts.Spelled text.toList ∧ p = parts.pattern) ∧
      ∀ fault, parse text = .error fault → fault.kind = .format := by
  constructor
  · intro p
    rw [parse_eq_ok_iff]
    constructor
    · intro done
      obtain ⟨parts, spelled⟩ := exists_parts done
      rw [read_spelled spelled] at done
      exact ⟨parts, spelled, (Except.ok.inj done).symm⟩
    · rintro ⟨parts, spelled, rfl⟩
      exact read_spelled spelled
  · intro fault refused
    rw [parse] at refused
    split at refused
    · cases refused
    · cases refused
      rfl

theorem parse_eq_ok_iff_spelled_of_quotes :
    let text := "'x''y'#,##0.0#%;(0)"
    let parts : Parts := {
      before := "x'y".toList
      run := { leading := some ['#'], last := "##0".toList, fraction := some "0#".toList }
      after := ['%']
      negative := some { before := ['('], digits := ['0'], after := [')'] } }
    parts.Spelled text.toList ∧ parse text = .ok parts.pattern ∧
      ∃ fault, parse "0'a" = .error fault ∧ fault.kind = .format := by
  intro text parts
  have formed : parts.run.WellFormed := by
    refine ⟨by decide, by decide, by decide, ?_, 1, 1, rfl⟩
    rw [DigitRun.Ordered]
    decide
  have first : AffixedDigits.Spelled "'x''y'#,##0.0#%".toList
      ⟨parts.before, parts.run.text, parts.after⟩ :=
    AffixedDigits.read_eq_ok_iff.mp (by decide)
  have second : AffixedDigits.Spelled "(0)".toList ⟨['('], ['0'], [')']⟩ :=
    AffixedDigits.read_eq_ok_iff.mp (by decide)
  have spelled : parts.Spelled text.toList :=
    ⟨by decide, formed, _, some "(0)".toList, by decide, by decide, first, .some second⟩
  have refused : parse "0'a" = .error (.pattern "0'a" .unterminatedQuote) := rfl
  exact ⟨spelled, ((parse_eq_ok_iff_spelled text).1 _).mpr ⟨parts, spelled, rfl⟩, _, refused,
    (parse_eq_ok_iff_spelled "0'a").2 _ refused⟩

end NumberPattern

end ReportSheets
