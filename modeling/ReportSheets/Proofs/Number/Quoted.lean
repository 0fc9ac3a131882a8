import ReportSheets.Proofs.Number.Affixes
import ReportSheets.Proofs.Number.Pattern
import ReportSheets.Proofs.Number.Rendered
import ReportSheets.Proofs.Text.Words

namespace ReportSheets

def quotedText (text : List Char) : List Char := '\'' :: (text ++ ['\''])

namespace AffixPhase

theorem literal_literal (phase : AffixPhase) : phase.literal.literal = phase.literal := by
  cases phase <;> rfl

def past (phase : AffixPhase) : List Char → AffixPhase
  | [] => phase
  | c :: rest => past (if AffixedDigits.isPlaceholder c then .digits else phase.literal) rest

theorem past_ne_before {phase : AffixPhase} {body : List Char}
    (begun : phase ≠ .before ∨ ∃ c ∈ body, AffixedDigits.isPlaceholder c = true) :
    phase.past body ≠ .before := by
  induction body generalizing phase with
  | nil =>
    rcases begun with begun | ⟨c, among, -⟩
    · exact begun
    · cases among
  | cons c rest ih =>
    rw [past]
    apply ih
    by_cases digit : AffixedDigits.isPlaceholder c = true
    · rw [if_pos digit]
      exact .inl AffixPhase.noConfusion
    rw [if_neg digit]
    rcases begun with begun | ⟨d, among, special⟩
    · left
      cases phase with
      | before => exact absurd rfl begun
      | digits => exact AffixPhase.noConfusion
      | after => exact AffixPhase.noConfusion
    · rcases List.mem_cons.mp among with rfl | later
      · exact absurd special digit
      · exact .inr ⟨d, later, special⟩

end AffixPhase

namespace AffixedDigits

variable {phase : AffixPhase} {quoted : Bool} {text body : List Char} {c : Char}

instance : Append AffixedDigits where
  append first rest :=
    { before := first.before ++ rest.before
      digits := first.digits ++ rest.digits
      after := first.after ++ rest.after }

theorem append_eq (first rest : AffixedDigits) :
    first ++ rest =
      { before := first.before ++ rest.before
        digits := first.digits ++ rest.digits
        after := first.after ++ rest.after } := rfl

theorem map_put_append (phase : AffixPhase) (c : Char) (parts : AffixedDigits)
    (later : Except PatternFault AffixedDigits) :
    (later.map (parts ++ ·)).map (put phase c) = later.map (put phase c parts ++ ·) := by
  cases later with
  | error fault => rfl
  | ok rest =>
    have joined : put phase c (parts ++ rest) = put phase c parts ++ rest := by
      cases phase <;> rfl
    exact congrArg Except.ok joined

def literalText (phase : AffixPhase) (text : List Char) : AffixedDigits :=
  match phase with
  | .before => { before := text }
  | .digits | .after => { after := text }

theorem put_literalText (phase : AffixPhase) (c : Char) (text : List Char) :
    put phase.literal c (literalText phase text) = literalText phase (c :: text) := by
  cases phase <;> rfl

/-- Within quotes every character is literal. -/
theorem scan_within (bare : '\'' ∉ text) (rest : List Char) :
    scan phase.literal true (text ++ rest) =
      (scan phase.literal true rest).map (literalText phase text ++ ·) := by
  induction text with
  | nil =>
    have nothing : ∀ parts : AffixedDigits, literalText phase [] ++ parts = parts := by
      cases phase <;> exact fun _ => rfl
    simp only [List.nil_append, nothing]
    cases scan phase.literal true rest <;> rfl
  | cons c text ih =>
    obtain ⟨plain, others⟩ := not_or.mp (List.mem_cons.not.mp bare)
    rw [List.cons_append, scan_literal (Ne.symm plain) (Bool.true_or _), phase.literal_literal,
      ih others, map_put_append, put_literalText]

theorem scan_quotedText (visible : text ≠ []) (bare : '\'' ∉ text)
    (next : body.head? ≠ some '\'') :
    scan phase false (quotedText text ++ body) =
      (scan phase.literal false body).map (literalText phase text ++ ·) := by
  have opened : (text ++ '\'' :: body).head? ≠ some '\'' := by
    cases text with
    | nil => exact absurd rfl visible
    | cons c rest =>
      intro same
      cases same
      exact bare List.mem_cons_self
  have whole : quotedText text ++ body = '\'' :: (text ++ '\'' :: body) := by
    simp [quotedText]
  rw [whole, scan_mark opened, Bool.not_false, scan_within bare, scan_mark next, Bool.not_true,
    phase.literal_literal]

theorem scan_unclosed (bare : '\'' ∉ text) :
    scan phase false ('\'' :: text) = .error .unterminatedQuote := by
  have opened : text.head? ≠ some '\'' := fun same => bare (List.mem_of_head? same)
  have whole : text = text ++ [] := (List.append_nil text).symm
  rw [scan_mark opened, Bool.not_false, whole, scan_within bare, scan]
  rfl

/-- What follows a text without quotes is read from where that text ends. -/
theorem scan_append {parts : AffixedDigits} (plain : '\'' ∉ body)
    (accepted : scan phase false body = .ok parts) (rest : List Char) :
    scan phase false (body ++ rest) = (scan (phase.past body) false rest).map (parts ++ ·) := by
  induction body generalizing phase parts with
  | nil =>
    rw [scan] at accepted
    cases accepted
    rw [List.nil_append, AffixPhase.past]
    cases scan phase false rest <;> rfl
  | cons c text ih =>
    obtain ⟨unmarked, others⟩ := not_or.mp (List.mem_cons.not.mp plain)
    have mark : c ≠ '\'' := Ne.symm unmarked
    rw [AffixPhase.past, List.cons_append]
    by_cases digit : isPlaceholder c = true
    · rw [scan_digit mark digit] at accepted ⊢
      by_cases last : phase = .after
      · rw [if_pos last] at accepted
        cases accepted
      rw [if_neg last] at accepted ⊢
      obtain ⟨read, done, rfl⟩ := exists_of_map_ok accepted
      rw [if_pos digit, ih others done, map_put_append]
    · have literal : (false || !isPlaceholder c) = true := by
        rw [Bool.eq_false_iff.mpr digit]
        rfl
      rw [scan_literal mark literal] at accepted ⊢
      obtain ⟨read, done, rfl⟩ := exists_of_map_ok accepted
      rw [if_neg digit, ih others done, map_put_append]

theorem read_quotedText_append {parts : AffixedDigits} (visible : text ≠ []) (bare : '\'' ∉ text)
    (plain : '\'' ∉ body) (accepted : read body = .ok parts) :
    read (quotedText text ++ body) = .ok { parts with before := text ++ parts.before } := by
  have next : body.head? ≠ some '\'' := fun same => plain (List.mem_of_head? same)
  rw [read] at accepted
  rw [read, scan_quotedText visible bare next, AffixPhase.literal, accepted]
  rfl

theorem read_append_quotedText {parts : AffixedDigits} (visible : text ≠ []) (bare : '\'' ∉ text)
    (plain : '\'' ∉ body) (digit : ∃ c ∈ body, isPlaceholder c = true)
    (accepted : read body = .ok parts) :
    read (body ++ quotedText text) = .ok { parts with after := parts.after ++ text } := by
  have literal : literalText (AffixPhase.before.past body) text = { after := text } := by
    have past : AffixPhase.before.past body ≠ .before := AffixPhase.past_ne_before (.inr digit)
    cases stands : AffixPhase.before.past body with
    | before => exact absurd stands past
    | digits => rfl
    | after => rfl
  have whole : quotedText text = quotedText text ++ [] := (List.append_nil _).symm
  rw [read, scan_append plain accepted, whole, scan_quotedText visible bare (by simp), scan, literal]
  simp only [Except.map, append_eq, List.append_nil]

theorem read_append_unclosed {parts : AffixedDigits} (bare : '\'' ∉ text) (plain : '\'' ∉ body)
    (accepted : read body = .ok parts) :
    read (body ++ '\'' :: text) = .error .unterminatedQuote := by
  rw [read, scan_append plain accepted, scan_unclosed bare]
  rfl

end AffixedDigits

namespace NumberPattern

variable {p : NumberPattern} {text body : List Char} {n : Binary64}

/-- The pattern with the multiplier that `text` asks for beside its own literal texts. -/
def beside (p : NumberPattern) (text : List Char) : NumberPattern :=
  { p with multiplier := multiplierOf (p.before ++ p.after ++ text) }

theorem multiplierOf_congr {first second : List Char} (same : ∀ c, c ∈ first ↔ c ∈ second) :
    multiplierOf first = multiplierOf second := by
  simp only [multiplierOf, same]

theorem multiplierOf_append_eq_iff (own text : List Char) :
    multiplierOf (own ++ text) = multiplierOf own ↔
      ('%' ∈ text → '%' ∈ own) ∧ ('‰' ∈ text → '%' ∈ own ∨ '‰' ∈ own) := by
  simp only [multiplierOf, List.mem_append]
  by_cases percent : '%' ∈ own
  · simp [percent]
  by_cases percentText : '%' ∈ text
  · by_cases perMille : '‰' ∈ own <;> simp [percent, percentText, perMille]
  by_cases perMille : '‰' ∈ own <;> by_cases perMilleText : '‰' ∈ text <;>
    simp [percent, percentText, perMille, perMilleText]

theorem beside_eq_self_iff (done : read body = .ok p) (text : List Char) :
    p.beside text = p ↔
      ('%' ∈ text → '%' ∈ p.before ++ p.after) ∧
        ('‰' ∈ text → '%' ∈ p.before ++ p.after ∨ '‰' ∈ p.before ++ p.after) := by
  rw [← multiplierOf_append_eq_iff, ← multiplier_of_read done]
  constructor
  · intro same
    exact congrArg NumberPattern.multiplier same
  · intro same
    rw [beside, same]

theorem read_quotedText_append (visible : text ≠ []) (bare : '\'' ∉ text) (undivided : ';' ∉ text)
    (plain : '\'' ∉ body) (single : ';' ∉ body) (accepted : read body = .ok p) :
    read (quotedText text ++ body) = .ok { p.beside text with before := text ++ p.before } := by
  obtain ⟨-, parts, affixed, shaped, alone, before, after, -⟩ :=
    (read_single_eq_ok_iff single).mp accepted
  have singleWhole : ';' ∉ quotedText text ++ body := by
    simp [quotedText, undivided, single]
  refine (read_single_eq_ok_iff singleWhole).mpr ⟨by simp [quotedText], _,
    AffixedDigits.read_quotedText_append visible bare plain affixed, shaped, alone, ?_, after, ?_⟩
  · rw [before]
  · rw [beside, before, after]
    apply multiplierOf_congr
    intro c
    simp only [List.mem_append]
    tauto

theorem read_append_quotedText (visible : text ≠ []) (bare : '\'' ∉ text) (undivided : ';' ∉ text)
    (plain : '\'' ∉ body) (single : ';' ∉ body)
    (digit : ∃ c ∈ body, AffixedDigits.isPlaceholder c = true) (accepted : read body = .ok p) :
    read (body ++ quotedText text) = .ok { p.beside text with after := p.after ++ text } := by
  obtain ⟨-, parts, affixed, shaped, alone, before, after, -⟩ :=
    (read_single_eq_ok_iff single).mp accepted
  have singleWhole : ';' ∉ body ++ quotedText text := by
    simp [quotedText, undivided, single]
  refine (read_single_eq_ok_iff singleWhole).mpr ⟨by simp [quotedText], _,
    AffixedDigits.read_append_quotedText visible bare plain digit affixed, shaped, alone, before,
    ?_, ?_⟩
  · rw [after]
  · rw [beside, before, after, List.append_assoc]

/-- A semicolon divides the pattern within the quotes, which are then open in its first part. -/
theorem read_divided_quotedText (bare : '\'' ∉ text) (divided : ';' ∈ text) (plain : '\'' ∉ body)
    (single : ';' ∉ body) (accepted : read body = .ok p) :
    read (quotedText text ++ body) = .error .unterminatedQuote ∧
      read (body ++ quotedText text) = .error .unterminatedQuote := by
  obtain ⟨visible, parts, affixed, -⟩ := (read_single_eq_ok_iff single).mp accepted
  obtain ⟨first, rest, rfl, undivided⟩ := List.eq_append_cons_of_mem divided
  have bareFirst : '\'' ∉ first := fun member => bare (List.mem_append_left _ member)
  constructor
  · have cut : quotedText (first ++ ';' :: rest) ++ body =
        ('\'' :: first) ++ ';' :: (rest ++ '\'' :: body) := by
      simp [quotedText]
    rw [cut]
    apply read_of_positivePart_error (by simp)
    rw [positivePart_append (by simp [undivided])]
    exact AffixedDigits.scan_unclosed bareFirst
  · have cut : body ++ quotedText (first ++ ';' :: rest) =
        (body ++ '\'' :: first) ++ ';' :: (rest ++ ['\'']) := by
      simp [quotedText]
    rw [cut]
    apply read_of_positivePart_error (by simp)
    rw [positivePart_append (by simp [undivided, single])]
    exact AffixedDigits.read_append_unclosed bareFirst plain affixed

theorem render_of_single (alone : p.negative = none) (number : n ≠ .nan) :
    p.render n =
      (if n.isNegative then ['-'] else []) ++ (p.before ++ p.core n ++ p.after) := by
  rw [render_eq_core number, affixes, alone]
  cases n.isNegative <;> simp

theorem render_prepend (alone : p.negative = none) (number : n ≠ .nan) :
    render { p with before := text ++ p.before } n =
      (if n.isNegative then ['-'] else []) ++ text ++ (p.before ++ p.core n ++ p.after) := by
  have shown := render_of_single (p := { p with before := text ++ p.before }) alone number
  rw [shown]
  simp only [List.append_assoc]
  rfl

theorem render_append (alone : p.negative = none) (number : n ≠ .nan) :
    render { p with after := p.after ++ text } n =
      (if n.isNegative then ['-'] else []) ++ (p.before ++ p.core n ++ p.after) ++ text := by
  have shown := render_of_single (p := { p with after := p.after ++ text }) alone number
  rw [shown]
  simp only [List.append_assoc]
  rfl

/-- A pattern with quoted text at its front or at its end is read unless a semicolon is quoted. It
shows every number with the text at that place, behind the minus sign of a negative number, and with
the digits that the pattern shows where it scales by the signs in the text as well. -/
theorem parse_quotedText (visible : text ≠ []) (bare : '\'' ∉ text) (plain : '\'' ∉ body)
    (single : ';' ∉ body) (digit : ∃ c ∈ body, c = '#' ∨ c = '0')
    (accepted : parse (String.ofList body) = .ok p) :
    (';' ∉ text →
      ∃ front back, parse (String.ofList (quotedText text ++ body)) = .ok front ∧
        parse (String.ofList (body ++ quotedText text)) = .ok back ∧
        ∀ n, n ≠ Binary64.nan →
          ∃ sign rest, sign = (if n.isNegative then ['-'] else []) ∧
            (p.beside text).render n = sign ++ rest ∧
            front.render n = sign ++ text ++ rest ∧
            back.render n = sign ++ rest ++ text) ∧
      (';' ∈ text →
        parse (String.ofList (quotedText text ++ body)) =
            .error (.pattern (String.ofList (quotedText text ++ body)) .unterminatedQuote) ∧
          parse (String.ofList (body ++ quotedText text)) =
            .error (.pattern (String.ofList (body ++ quotedText text)) .unterminatedQuote)) ∧
      (p.beside text = p ↔
        ('%' ∈ text → '%' ∈ p.before ++ p.after) ∧
          ('‰' ∈ text → '%' ∈ p.before ++ p.after ∨ '‰' ∈ p.before ++ p.after)) := by
  have read : read body = .ok p := by
    rw [← String.toList_ofList (l := body)]
    exact parse_eq_ok_iff.mp accepted
  refine ⟨?_, ?_, ?_⟩
  · intro undivided
    obtain ⟨-, -, -, -, alone, -⟩ := (read_single_eq_ok_iff single).mp read
    have special : ∃ c ∈ body, AffixedDigits.isPlaceholder c = true := by
      obtain ⟨c, among, kind⟩ := digit
      refine ⟨c, among, ?_⟩
      rcases kind with rfl | rfl <;> decide
    refine ⟨{ p.beside text with before := text ++ p.before },
      { p.beside text with after := p.after ++ text }, ?_, ?_, ?_⟩
    · rw [parse_eq_ok_iff, String.toList_ofList]
      exact read_quotedText_append visible bare undivided plain single read
    · rw [parse_eq_ok_iff, String.toList_ofList]
      exact read_append_quotedText visible bare undivided plain single special read
    · intro n number
      refine ⟨_, p.before ++ (p.beside text).core n ++ p.after, rfl, ?_, ?_, ?_⟩
      · exact render_of_single alone number
      · exact render_prepend (p := p.beside text) alone number
      · exact render_append (p := p.beside text) alone number
  · intro divided
    obtain ⟨front, back⟩ := read_divided_quotedText bare divided plain single read
    constructor <;> rw [parse_eq, String.toList_ofList]
    · rw [front]
      rfl
    · rw [back]
      rfl
  · exact beside_eq_self_iff read text

theorem parse_quotedText_of_number_sign :
    let text := "No. #0,".toList
    ∃ p front back, parse "#,##0円" = .ok p ∧ parse "'No. #0,'#,##0円" = .ok front ∧
      parse "#,##0円'No. #0,'" = .ok back ∧
      ∀ n, n ≠ Binary64.nan →
        ∃ sign rest, sign = (if n.isNegative then ['-'] else []) ∧ p.render n = sign ++ rest ∧
          front.render n = sign ++ text ++ rest ∧ back.render n = sign ++ rest ++ text := by
  intro text
  let body := "#,##0円".toList
  let p : NumberPattern := {
    before := []
    after := ['円']
    negative := none
    shape := {
      minWhole := 1
      minFraction := 0
      maxFraction := 0
      grouping := 3
      barePoint := false }
    multiplier := 1 }
  have accepted : parse (String.ofList body) = .ok p := by decide +kernel
  have visible : text ≠ [] := by decide
  obtain ⟨inert, -, same⟩ := parse_quotedText visible (by decide) (by decide) (by decide)
    ⟨'0', by decide⟩ accepted
  obtain ⟨front, back, frontRead, backRead, shown⟩ := inert (by decide)
  have unscaled : p.beside text = p := same.mpr (by decide)
  rw [unscaled] at shown
  exact ⟨p, front, back, accepted, frontRead, backRead, shown⟩

theorem quoted_percent_scales :
    let shown (pattern : String) := (parse pattern).map (·.render (.ofNat 1))
    shown "0" = .ok ['1'] ∧ shown "'%'0" = .ok "%100".toList ∧
      shown "';'0" = .error (.pattern "';'0" .unterminatedQuote) := by
  decide +kernel

end NumberPattern

end ReportSheets
