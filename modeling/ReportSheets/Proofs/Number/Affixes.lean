import ReportSheets.Number.Pattern
import ReportSheets.Proofs.Outcome

namespace ReportSheets

inductive PatternMark
  | apostrophe
  | quote
  | char (c : Char)
deriving DecidableEq

namespace PatternMark

def ofText : List Char → List PatternMark
  | [] => []
  | '\'' :: '\'' :: rest => .apostrophe :: ofText rest
  | '\'' :: rest => .quote :: ofText rest
  | c :: rest => .char c :: ofText rest

def shown : PatternMark → Char
  | .apostrophe | .quote => '\''
  | .char c => c

inductive Literal : List PatternMark → List Char → Prop
  | nil : Literal [] []
  | char {c : Char} {marks : List PatternMark} {text : List Char}
      (plain : AffixedDigits.isPlaceholder c = false) (rest : Literal marks text) :
      Literal (.char c :: marks) (c :: text)
  | apostrophe {marks : List PatternMark} {text : List Char} (rest : Literal marks text) :
      Literal (.apostrophe :: marks) ('\'' :: text)
  | quoted {held marks : List PatternMark} {text : List Char} (closed : .quote ∉ held)
      (rest : Literal marks text) :
      Literal (.quote :: (held ++ .quote :: marks)) (held.map shown ++ text)

variable {quoted : Bool} {c : Char} {marks : List PatternMark} {text : List Char}

def LiteralFrom : Bool → List PatternMark → List Char → Prop
  | false, marks, text => Literal marks text
  | true, marks, text => ∃ held rest after, .quote ∉ held ∧ marks = held ++ .quote :: rest ∧
      Literal rest after ∧ text = held.map shown ++ after

theorem literalFrom_nil : LiteralFrom quoted [] text ↔ quoted = false ∧ text = [] := by
  cases quoted with
  | false =>
    constructor
    · rintro ⟨⟩
      exact ⟨rfl, rfl⟩
    · rintro ⟨-, rfl⟩
      exact .nil
  | true =>
    constructor
    · rintro ⟨held, rest, after, -, whole, -⟩
      cases (List.append_eq_nil_iff.mp whole.symm).2
    · rintro ⟨⟨⟩, -⟩

/-- Within a quote a mark shows itself, unless it closes the quote. -/
theorem literalFrom_held {mark : PatternMark} (other : mark ≠ .quote) :
    LiteralFrom true (mark :: marks) text ↔
      ∃ rest, text = mark.shown :: rest ∧ LiteralFrom true marks rest := by
  constructor
  · rintro ⟨held, rest, after, closed, whole, literal, rfl⟩
    cases held with
    | nil => exact absurd (List.cons.inj whole).1 other
    | cons first held =>
      obtain ⟨rfl, rfl⟩ := List.cons.inj whole
      exact ⟨_, rfl, held, rest, after, fun member => closed (List.mem_cons_of_mem _ member), rfl,
        literal, rfl⟩
  · rintro ⟨_, rfl, held, rest, after, closed, rfl, literal, rfl⟩
    refine ⟨mark :: held, rest, after, ?_, rfl, literal, rfl⟩
    rw [List.mem_cons, not_or]
    exact ⟨other.symm, closed⟩

theorem literalFrom_apostrophe :
    LiteralFrom quoted (.apostrophe :: marks) text ↔
      ∃ rest, text = '\'' :: rest ∧ LiteralFrom quoted marks rest := by
  cases quoted with
  | false =>
    constructor
    · rintro ⟨⟩
      exact ⟨_, rfl, ‹_›⟩
    · rintro ⟨rest, rfl, literal⟩
      exact .apostrophe literal
  | true => exact literalFrom_held PatternMark.noConfusion

theorem literalFrom_quote :
    LiteralFrom quoted (.quote :: marks) text ↔ LiteralFrom (!quoted) marks text := by
  cases quoted with
  | false =>
    constructor
    · rintro ⟨⟩
      exact ⟨_, _, _, ‹_›, rfl, ‹_›, rfl⟩
    · rintro ⟨held, rest, after, closed, rfl, literal, rfl⟩
      exact .quoted closed literal
  | true =>
    constructor
    · rintro ⟨held, rest, after, closed, whole, literal, rfl⟩
      cases held with
      | nil =>
        obtain ⟨-, rfl⟩ := List.cons.inj whole
        exact literal
      | cons first held =>
        obtain ⟨rfl, -⟩ := List.cons.inj whole
        exact absurd List.mem_cons_self closed
    · exact fun literal => ⟨[], marks, text, List.not_mem_nil, rfl, literal, rfl⟩

theorem literalFrom_char :
    LiteralFrom quoted (.char c :: marks) text ↔
      (quoted || !AffixedDigits.isPlaceholder c) = true ∧
        ∃ rest, text = c :: rest ∧ LiteralFrom quoted marks rest := by
  cases quoted with
  | false =>
    rw [Bool.false_or, Bool.not_eq_true']
    constructor
    · rintro ⟨⟩
      exact ⟨‹_›, _, rfl, ‹_›⟩
    · rintro ⟨plain, rest, rfl, literal⟩
      exact .char plain literal
  | true =>
    rw [Bool.true_or, literalFrom_held PatternMark.noConfusion, PatternMark.shown]
    simp only [true_and]

end PatternMark

namespace AffixedDigits

variable {phase : AffixPhase} {quoted : Bool} {text body : List Char} {c : Char}
  {marks : List PatternMark} {parts : AffixedDigits}

def DigitsThen (marks : List PatternMark) (digits after : List Char) : Prop :=
  ∃ last, marks = digits.map .char ++ last ∧ (∀ c ∈ digits, isPlaceholder c = true) ∧
    PatternMark.Literal last after

/-- The parts of a subpattern that begins within a quote or outside. Without placeholders all of it
is text before them. -/
def SpelledFrom (quoted : Bool) (marks : List PatternMark) (parts : AffixedDigits) : Prop :=
  ∃ first rest, marks = first ++ rest ∧ PatternMark.LiteralFrom quoted first parts.before ∧
    DigitsThen rest parts.digits parts.after ∧ (parts.digits = [] → rest = [])

def Spelled (text : List Char) (parts : AffixedDigits) : Prop :=
  SpelledFrom false (PatternMark.ofText text) parts

theorem scan_plain (plain : c ≠ '\'') (rest : List Char) :
    scan phase quoted (c :: rest) =
      if quoted || !isPlaceholder c then (scan phase.literal quoted rest).map (put phase.literal c)
      else if phase = .after then .error .digitInSuffix
      else (scan .digits quoted rest).map (put .digits c) := by
  have mark : ∀ rest', c = '\'' → rest = '\'' :: rest' → False := fun _ same => absurd same plain
  by_cases last : phase = .after
  · rw [last, scan.eq_5 quoted c rest mark plain, if_pos rfl]
  · rw [scan.eq_6 phase quoted c rest mark plain last, if_neg last]

theorem scan_literal (plain : c ≠ '\'') (literal : (quoted || !isPlaceholder c) = true)
    (rest : List Char) :
    scan phase quoted (c :: rest) = (scan phase.literal quoted rest).map (put phase.literal c) := by
  rw [scan_plain plain, if_pos literal]

theorem scan_digit (plain : c ≠ '\'') (digit : isPlaceholder c = true) (rest : List Char) :
    scan phase false (c :: rest) =
      if phase = .after then .error .digitInSuffix
      else (scan .digits false rest).map (put .digits c) := by
  have special : ¬ (false || !isPlaceholder c) = true := by
    rw [digit]
    decide
  rw [scan_plain plain, if_neg special]

theorem scan_apostrophe (rest : List Char) :
    scan phase quoted ('\'' :: '\'' :: rest) =
      (scan phase.literal quoted rest).map (put phase.literal '\'') := by
  cases quoted <;> rfl

theorem scan_mark (next : body.head? ≠ some '\'') :
    scan phase quoted ('\'' :: body) = scan phase.literal (!quoted) body := by
  rw [scan]
  rintro rest rfl
  exact next rfl

def scanMarks : AffixPhase → Bool → List PatternMark → Except PatternFault AffixedDigits
  | _, true, [] => .error .unterminatedQuote
  | _, false, [] => .ok {}
  | phase, quoted, .apostrophe :: rest =>
    (scanMarks phase.literal quoted rest).map (put phase.literal '\'')
  | phase, quoted, .quote :: rest => scanMarks phase.literal (!quoted) rest
  | phase, quoted, .char c :: rest =>
    if quoted || !isPlaceholder c then
      (scanMarks phase.literal quoted rest).map (put phase.literal c)
    else if phase = .after then .error .digitInSuffix
    else (scanMarks .digits quoted rest).map (put .digits c)

theorem scanMarks_open : scanMarks phase true [] = .error .unterminatedQuote := rfl

theorem scanMarks_ended : scanMarks phase false [] = .ok {} := rfl

theorem scanMarks_apostrophe :
    scanMarks phase quoted (.apostrophe :: marks) =
      (scanMarks phase.literal quoted marks).map (put phase.literal '\'') := by
  cases quoted <;> rfl

theorem scanMarks_quote :
    scanMarks phase quoted (.quote :: marks) = scanMarks phase.literal (!quoted) marks := by
  cases quoted <;> rfl

theorem scanMarks_char :
    scanMarks phase quoted (.char c :: marks) =
      if quoted || !isPlaceholder c then
        (scanMarks phase.literal quoted marks).map (put phase.literal c)
      else if phase = .after then .error .digitInSuffix
      else (scanMarks .digits quoted marks).map (put .digits c) := by
  cases quoted <;> rfl

theorem scan_eq_scanMarks (phase : AffixPhase) (quoted : Bool) (text : List Char) :
    scan phase quoted text = scanMarks phase quoted (PatternMark.ofText text) := by
  induction text using PatternMark.ofText.induct generalizing phase quoted with
  | case1 => cases quoted <;> rfl
  | case2 rest ih =>
    have marked : PatternMark.ofText ('\'' :: '\'' :: rest) =
        .apostrophe :: PatternMark.ofText rest := rfl
    rw [scan_apostrophe, marked, scanMarks_apostrophe, ih]
  | case3 rest single ih =>
    have next : rest.head? ≠ some '\'' := by
      intro first
      obtain ⟨more, rfl⟩ := List.head?_eq_some_iff.mp first
      exact single more rfl
    have marked : PatternMark.ofText ('\'' :: rest) = .quote :: PatternMark.ofText rest :=
      PatternMark.ofText.eq_3 rest single
    rw [scan_mark next, marked, scanMarks_quote, ih]
  | case4 c rest pair plain ih =>
    have marked : PatternMark.ofText (c :: rest) = .char c :: PatternMark.ofText rest :=
      PatternMark.ofText.eq_4 c rest pair plain
    rw [marked, scan_plain plain, scanMarks_char, ih, ih]

theorem scanMarks_after_eq_ok_iff :
    scanMarks .after quoted marks = .ok parts ↔
      ∃ text, parts = { after := text } ∧ PatternMark.LiteralFrom quoted marks text := by
  induction marks generalizing quoted parts with
  | nil =>
    simp only [PatternMark.literalFrom_nil]
    cases quoted with
    | false =>
      rw [scanMarks_ended, Except.ok.injEq]
      constructor
      · rintro rfl
        exact ⟨[], rfl, rfl, rfl⟩
      · rintro ⟨text, rfl, -, rfl⟩
        rfl
    | true =>
      rw [scanMarks_open]
      constructor
      · rintro ⟨⟩
      · rintro ⟨-, -, ⟨⟩, -⟩
  | cons mark marks ih =>
    cases mark with
    | apostrophe =>
      rw [scanMarks_apostrophe, AffixPhase.literal, map_eq_ok_iff]
      simp only [PatternMark.literalFrom_apostrophe, ih]
      constructor
      · rintro ⟨_, ⟨text, rfl, literal⟩, rfl⟩
        exact ⟨_, rfl, text, rfl, literal⟩
      · rintro ⟨_, rfl, text, rfl, literal⟩
        exact ⟨_, ⟨text, rfl, literal⟩, rfl⟩
    | quote =>
      rw [scanMarks_quote, AffixPhase.literal, ih]
      simp only [PatternMark.literalFrom_quote]
    | char c =>
      rw [scanMarks_char]
      simp only [PatternMark.literalFrom_char]
      split
      · rename_i plain
        rw [AffixPhase.literal, map_eq_ok_iff]
        simp only [ih, plain, true_and]
        constructor
        · rintro ⟨_, ⟨text, rfl, literal⟩, rfl⟩
          exact ⟨_, rfl, text, rfl, literal⟩
        · rintro ⟨_, rfl, text, rfl, literal⟩
          exact ⟨_, ⟨text, rfl, literal⟩, rfl⟩
      · rename_i digit
        constructor
        · rintro ⟨⟩
        · rintro ⟨-, -, plain, -⟩
          exact absurd plain digit

theorem digitsThen_nil {digits after : List Char} :
    DigitsThen [] digits after ↔ digits = [] ∧ after = [] := by
  constructor
  · rintro ⟨last, whole, -, literal⟩
    obtain ⟨none, rfl⟩ := List.append_eq_nil_iff.mp whole.symm
    cases literal
    exact ⟨List.map_eq_nil_iff.mp none, rfl⟩
  · rintro ⟨rfl, rfl⟩
    exact ⟨[], rfl, List.forall_mem_nil _, .nil⟩

theorem digitsThen_cons {mark : PatternMark} {digits after : List Char} :
    DigitsThen (mark :: marks) digits after ↔
      digits = [] ∧ PatternMark.Literal (mark :: marks) after ∨
      ∃ c rest, mark = .char c ∧ isPlaceholder c = true ∧ digits = c :: rest ∧
        DigitsThen marks rest after := by
  constructor
  · rintro ⟨last, whole, each, literal⟩
    cases digits with
    | nil =>
      rw [List.map_nil, List.nil_append] at whole
      exact .inl ⟨rfl, whole ▸ literal⟩
    | cons c rest =>
      obtain ⟨digit, others⟩ := List.forall_mem_cons.mp each
      obtain ⟨rfl, rfl⟩ := List.cons.inj whole
      exact .inr ⟨c, rest, rfl, digit, rfl, last, rfl, others, literal⟩
  · rintro (⟨rfl, literal⟩ | ⟨c, rest, rfl, digit, rfl, last, rfl, others, literal⟩)
    · exact ⟨_, rfl, List.forall_mem_nil _, literal⟩
    · exact ⟨last, rfl, List.forall_mem_cons.mpr ⟨digit, others⟩, literal⟩

theorem scanMarks_digit (digit : isPlaceholder c = true) (notAfter : phase ≠ .after) :
    scanMarks phase false (.char c :: marks) = (scanMarks .digits false marks).map (put .digits c) := by
  rw [scanMarks_char, digit, if_neg (by decide), if_neg notAfter]

theorem not_literal_digit (digit : isPlaceholder c = true) :
    ¬ PatternMark.Literal (.char c :: marks) text := by
  intro literal
  cases literal with
  | char plain rest =>
    rw [digit] at plain
    cases plain

theorem scanMarks_digits_other {mark : PatternMark}
    (other : ∀ c, mark = .char c → isPlaceholder c = false) :
    scanMarks .digits false (mark :: marks) = scanMarks .after false (mark :: marks) := by
  cases mark with
  | apostrophe => rfl
  | quote => rfl
  | char c =>
    rw [scanMarks_char, scanMarks_char, other c rfl]
    rfl

theorem scanMarks_digits_eq_ok_iff :
    scanMarks .digits false marks = .ok parts ↔
      ∃ digits text, parts = { digits, after := text } ∧ DigitsThen marks digits text := by
  induction marks generalizing parts with
  | nil =>
    simp only [digitsThen_nil]
    rw [scanMarks_ended, Except.ok.injEq]
    constructor
    · rintro rfl
      exact ⟨[], [], rfl, rfl, rfl⟩
    · rintro ⟨_, _, rfl, rfl, rfl⟩
      rfl
  | cons mark marks ih =>
    simp only [digitsThen_cons]
    by_cases digit : ∃ c, mark = .char c ∧ isPlaceholder c = true
    · obtain ⟨c, rfl, digit⟩ := digit
      rw [scanMarks_digit digit AffixPhase.noConfusion, map_eq_ok_iff]
      simp only [ih]
      constructor
      · rintro ⟨_, ⟨digits, text, rfl, more⟩, rfl⟩
        exact ⟨c :: digits, text, rfl, .inr ⟨c, digits, rfl, digit, rfl, more⟩⟩
      · rintro ⟨_, text, rfl, ⟨-, literal⟩ | ⟨_, digits, ⟨⟩, -, rfl, more⟩⟩
        · exact absurd literal (not_literal_digit digit)
        · exact ⟨_, ⟨digits, text, rfl, more⟩, rfl⟩
    · have other : ∀ c, mark = .char c → isPlaceholder c = false := by
        intro c same
        exact Bool.eq_false_iff.mpr fun special => digit ⟨c, same, special⟩
      rw [scanMarks_digits_other other, scanMarks_after_eq_ok_iff]
      constructor
      · rintro ⟨text, rfl, literal⟩
        exact ⟨[], text, rfl, .inl ⟨rfl, literal⟩⟩
      · rintro ⟨_, text, rfl, ⟨rfl, literal⟩ | ⟨c, _, same, special, -⟩⟩
        · exact ⟨text, rfl, literal⟩
        · exact absurd ⟨c, same, special⟩ digit

theorem spelledFrom_nil : SpelledFrom quoted [] parts ↔ quoted = false ∧ parts = {} := by
  constructor
  · rintro ⟨first, rest, whole, literal, more, -⟩
    obtain ⟨rfl, rfl⟩ := List.append_eq_nil_iff.mp whole.symm
    obtain ⟨rfl, before⟩ := PatternMark.literalFrom_nil.1 literal
    obtain ⟨digits, after⟩ := digitsThen_nil.1 more
    obtain ⟨_, _, _⟩ := parts
    cases before
    cases digits
    cases after
    exact ⟨rfl, rfl⟩
  · rintro ⟨rfl, rfl⟩
    exact ⟨[], [], rfl, .nil, digitsThen_nil.2 ⟨rfl, rfl⟩, fun _ => rfl⟩

theorem spelledFrom_digit (digit : isPlaceholder c = true) :
    SpelledFrom false (.char c :: marks) parts ↔
      ∃ digits, parts.before = [] ∧ parts.digits = c :: digits ∧
        DigitsThen marks digits parts.after := by
  constructor
  · rintro ⟨first, rest, whole, literal, more, -⟩
    cases first with
    | nil =>
      cases whole
      obtain ⟨-, before⟩ := PatternMark.literalFrom_nil.1 literal
      rcases digitsThen_cons.1 more with ⟨-, literal⟩ | ⟨_, digits, ⟨⟩, -, shown, more⟩
      · exact absurd literal (not_literal_digit digit)
      · exact ⟨digits, before, shown, more⟩
    | cons mark first =>
      cases whole
      exact absurd literal (not_literal_digit digit)
  · rintro ⟨digits, before, shown, more⟩
    refine ⟨[], _, rfl, PatternMark.literalFrom_nil.2 ⟨rfl, before⟩, ?_, ?_⟩
    · exact digitsThen_cons.2 (.inr ⟨c, digits, rfl, digit, shown, more⟩)
    · intro none
      rw [none] at shown
      cases shown

theorem spelledFrom_cons {mark : PatternMark}
    (other : quoted = true ∨ ∀ c, mark = .char c → isPlaceholder c = false) :
    SpelledFrom quoted (mark :: marks) parts ↔
      ∃ first rest, marks = first ++ rest ∧
        PatternMark.LiteralFrom quoted (mark :: first) parts.before ∧
        DigitsThen rest parts.digits parts.after ∧ (parts.digits = [] → rest = []) := by
  constructor
  · rintro ⟨first, rest, whole, literal, more, none⟩
    cases first with
    | nil =>
      cases whole
      obtain ⟨rfl, -⟩ := PatternMark.literalFrom_nil.1 literal
      rcases digitsThen_cons.1 more with ⟨without, -⟩ | ⟨c, _, rfl, digit, -⟩
      · cases none without
      · have plain := other.resolve_left Bool.false_ne_true
        rw [plain c rfl] at digit
        cases digit
    | cons _ first =>
      cases whole
      exact ⟨first, rest, rfl, literal, more, none⟩
  · rintro ⟨first, rest, rfl, literal, more, none⟩
    exact ⟨mark :: first, rest, rfl, literal, more, none⟩

theorem spelledFrom_quote :
    SpelledFrom quoted (.quote :: marks) parts ↔ SpelledFrom (!quoted) marks parts := by
  rw [spelledFrom_cons (.inr fun c same => PatternMark.noConfusion same)]
  simp only [PatternMark.literalFrom_quote]
  rfl

theorem spelledFrom_shown {mark : PatternMark}
    (other : quoted = true ∨ ∀ c, mark = .char c → isPlaceholder c = false)
    (shows : ∀ first text, PatternMark.LiteralFrom quoted (mark :: first) text ↔
      ∃ rest, text = mark.shown :: rest ∧ PatternMark.LiteralFrom quoted first rest) :
    SpelledFrom quoted (mark :: marks) parts ↔
      ∃ inner, SpelledFrom quoted marks inner ∧ put .before mark.shown inner = parts := by
  rw [spelledFrom_cons other]
  simp only [shows]
  constructor
  · rintro ⟨first, rest, whole, ⟨before, shown, literal⟩, more, none⟩
    refine ⟨{ parts with before }, ⟨first, rest, whole, literal, more, none⟩, ?_⟩
    rw [put, ← shown]
  · rintro ⟨inner, ⟨first, rest, whole, literal, more, none⟩, rfl⟩
    exact ⟨first, rest, whole, ⟨_, rfl, literal⟩, more, none⟩

/-- Before the placeholders literal text is read up to the first of them. -/
theorem scanMarks_before_eq_ok_iff :
    scanMarks .before quoted marks = .ok parts ↔ SpelledFrom quoted marks parts := by
  induction marks generalizing quoted parts with
  | nil =>
    rw [spelledFrom_nil]
    cases quoted with
    | false =>
      rw [scanMarks_ended, Except.ok.injEq]
      exact ⟨fun same => ⟨rfl, same.symm⟩, fun same => same.2.symm⟩
    | true =>
      rw [scanMarks_open]
      constructor
      · rintro ⟨⟩
      · rintro ⟨⟨⟩, -⟩
  | cons mark marks ih =>
    cases mark with
    | apostrophe =>
      rw [scanMarks_apostrophe, AffixPhase.literal, map_eq_ok_iff,
        spelledFrom_shown (.inr fun c same => PatternMark.noConfusion same)
          fun first text => PatternMark.literalFrom_apostrophe]
      simp only [ih, PatternMark.shown]
    | quote => rw [scanMarks_quote, AffixPhase.literal, ih, spelledFrom_quote]
    | char c =>
      by_cases plain : (quoted || !isPlaceholder c) = true
      · have other : quoted = true ∨ ∀ d, PatternMark.char c = .char d → isPlaceholder d = false := by
          simpa using plain
        rw [scanMarks_char, if_pos plain, AffixPhase.literal, map_eq_ok_iff,
          spelledFrom_shown other fun first text => by
            rw [PatternMark.literalFrom_char, plain, PatternMark.shown]
            simp only [true_and]]
        simp only [ih, PatternMark.shown]
      · obtain ⟨rfl, digit⟩ : quoted = false ∧ isPlaceholder c = true := by simpa using plain
        rw [scanMarks_digit digit AffixPhase.noConfusion, map_eq_ok_iff, spelledFrom_digit digit]
        simp only [scanMarks_digits_eq_ok_iff]
        constructor
        · rintro ⟨_, ⟨digits, text, rfl, more⟩, rfl⟩
          exact ⟨digits, rfl, rfl, more⟩
        · rintro ⟨digits, before, shown, more⟩
          refine ⟨_, ⟨digits, parts.after, rfl, more⟩, ?_⟩
          rw [put, ← before, ← shown]

theorem read_eq_ok_iff : read text = .ok parts ↔ Spelled text parts := by
  rw [read, scan_eq_scanMarks, scanMarks_before_eq_ok_iff, Spelled]

end AffixedDigits

end ReportSheets
