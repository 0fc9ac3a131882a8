import ReportSheets.Formula.Evaluation
import ReportSheets.Proofs.Text.Digits
import ReportSheets.Proofs.Text.Lowercase
import ReportSheets.Proofs.Text.Words

namespace ReportSheets

namespace Text

def IsDigits (text : List Char) : Prop := text ≠ [] ∧ ∀ c ∈ text, isDigit c = true

instance (text : List Char) : Decidable (IsDigits text) :=
  @instDecidableAnd _ _ inferInstance (List.decidableBAll (fun c => isDigit c = true) text)

theorem isDigits_iff {text : List Char} :
    (!text.isEmpty && text.all isDigit) = true ↔ IsDigits text := by
  simp [IsDigits]

theorem IsDigits.not_mem {text : List Char} {mark : Char} (digits : IsDigits text)
    (other : isDigit mark = false) : mark ∉ text := by
  intro member
  rw [digits.2 mark member] at other
  cases other

end Text

open Text

inductive UnsignedNumber : List Char → Prop
  | whole {digits : List Char} (shape : IsDigits digits) : UnsignedNumber digits
  | fraction {whole fraction : List Char} (shape : IsDigits whole) (after : IsDigits fraction) :
      UnsignedNumber (whole ++ '.' :: fraction)

inductive PlainNumber : List Char → Prop
  | unsigned {text : List Char} (shape : UnsignedNumber text) : PlainNumber text
  | positive {text : List Char} (shape : UnsignedNumber text) : PlainNumber ('+' :: text)
  | negative {text : List Char} (shape : UnsignedNumber text) : PlainNumber ('-' :: text)

def withoutSign : List Char → List Char
  | '-' :: rest => rest
  | '+' :: rest => rest
  | rest => rest

def isUnsignedNumber (text : List Char) : Bool :=
  match cutAt '.' text with
  | some (whole, fraction) => (!whole.isEmpty && whole.all isDigit) &&
      (!fraction.isEmpty && fraction.all isDigit)
  | none => !text.isEmpty && text.all isDigit

variable {text whole fraction : List Char} {negative : Bool}

theorem isPlainNumber_eq (text : List Char) :
    isPlainNumber text = isUnsignedNumber (withoutSign text) := by
  fun_cases isPlainNumber text with
  | case1 body whole fraction cut =>
    have same : body = withoutSign text := rfl
    rw [← same, isUnsignedNumber]
    cases point : cutAt '.' body with
    | none =>
      rw [point] at cut
      cases cut
      simp
    | some parts =>
      rw [point] at cut
      cases cut
      simp

theorem isUnsignedNumber_iff : isUnsignedNumber text = true ↔ UnsignedNumber text := by
  have point : isDigit '.' = false := by decide
  constructor
  · intro shape
    obtain ⟨whole, fraction, missing, rfl⟩ := exists_joinedAt '.' text
    rw [isUnsignedNumber, cutAt_joinedAt missing] at shape
    cases fraction with
    | none => exact .whole (isDigits_iff.1 shape)
    | some fraction =>
      simp only [Option.map_some, Bool.and_eq_true (_ && _) (_ && _)] at shape
      exact .fraction (isDigits_iff.1 shape.1) (isDigits_iff.1 shape.2)
  · intro shape
    cases shape with
    | whole digits =>
      rw [isUnsignedNumber, cutAt_unmarked (digits.not_mem point)]
      exact isDigits_iff.2 digits
    | fraction digits after =>
      rw [isUnsignedNumber, cutAt_append_mark (digits.not_mem point)]
      exact (Bool.and_eq_true _ _).mpr ⟨isDigits_iff.2 digits, isDigits_iff.2 after⟩

theorem UnsignedNumber.withoutSign_eq (shape : UnsignedNumber text) : withoutSign text = text := by
  have first : ∀ {digits : List Char} (rest : List Char), IsDigits digits →
      withoutSign (digits ++ rest) = digits ++ rest := by
    rintro digits rest ⟨some, each⟩
    obtain ⟨c, digits, rfl⟩ := List.exists_cons_of_ne_nil some
    have digit := each c List.mem_cons_self
    rw [List.cons_append, withoutSign]
    · rintro rest' same
      rw [List.head_eq_of_cons_eq same] at digit
      exact absurd digit (by decide)
    · rintro rest' same
      rw [List.head_eq_of_cons_eq same] at digit
      exact absurd digit (by decide)
  cases shape with
  | whole digits =>
    have kept := first [] digits
    rwa [List.append_nil] at kept
  | fraction digits after => exact first _ digits

theorem isPlainNumber_iff : isPlainNumber text = true ↔ PlainNumber text := by
  rw [isPlainNumber_eq, isUnsignedNumber_iff]
  constructor
  · intro shape
    unfold withoutSign at shape
    split at shape
    · exact .negative shape
    · exact .positive shape
    · exact .unsigned shape
  · intro shape
    cases shape with
    | unsigned shape => rwa [shape.withoutSign_eq]
    | positive shape => exact shape
    | negative shape => exact shape

namespace Binary64

theorem read?_eq (text : List Char) :
    ∃ negative, read? text = readUnsigned? negative (withoutSign text) := by
  cases text with
  | nil => exact ⟨false, rfl⟩
  | cons c rest =>
    by_cases minus : c = '-'
    · exact ⟨true, by rw [minus]; rfl⟩
    by_cases plus : c = '+'
    · exact ⟨false, by rw [plus]; rfl⟩
    exact ⟨false, by simp [read?, withoutSign, minus, plus]⟩

/-- What begins with a digit is none of the words for infinity and for no number. -/
theorem lower_ne_word (digits : IsDigits whole) (rest : List Char) {word : List Char}
    (letter : word.head?.all (fun c => !isDigit c) = true) :
    (whole ++ rest).map Char.toLower ≠ word := by
  obtain ⟨c, more, rfl⟩ := List.exists_cons_of_ne_nil digits.1
  have digit := digits.2 c List.mem_cons_self
  have kept : c.toLower = c := by
    have bounds := isDigit_iff.mp digit
    exact toLower_of_not_capital fun capital => by
      have upper := capital.1
      omega
  rintro rfl
  rw [List.cons_append, List.map_cons, List.head?_cons, Option.all_some, kept, digit] at letter
  cases letter

theorem readUnsigned?_digits (negative : Bool) (digits : IsDigits whole) (rest : List Char)
    (stops : ∀ c, rest.head? = some c → isDigit c = false) :
    readUnsigned? negative (whole ++ rest) =
      match (match rest with
        | '.' :: more => (more.takeWhile isDigit, more.dropWhile isDigit)
        | more => ([], more)) with
      | (fraction, rest) => (readExponent? rest).map fun exponent =>
        ofDecimal negative (naturalOf (whole ++ fraction)) (exponent - fraction.length) := by
  have inf : (whole ++ rest).map Char.toLower ≠ "inf".toList :=
    lower_ne_word digits rest (by decide)
  have infinity : (whole ++ rest).map Char.toLower ≠ "infinity".toList :=
    lower_ne_word digits rest (by decide)
  have nan : (whole ++ rest).map Char.toLower ≠ "nan".toList :=
    lower_ne_word digits rest (by decide)
  obtain ⟨taken, dropped⟩ := takeWhile_append_stop digits.2 stops
  have visible : whole.isEmpty = false := by simpa using digits.1
  unfold readUnsigned?
  simp only [inf, infinity, nan, or_self, if_false, taken, dropped, visible, Bool.false_and]
  rfl

theorem readUnsigned?_whole (negative : Bool) (digits : IsDigits whole) :
    readUnsigned? negative whole = some (ofDecimal negative (naturalOf whole) 0) := by
  have read := readUnsigned?_digits negative digits [] (by simp)
  rw [List.append_nil] at read
  rw [read]
  simp [readExponent?]

theorem readUnsigned?_fraction (negative : Bool) (digits : IsDigits whole) (after : IsDigits fraction) :
    readUnsigned? negative (whole ++ '.' :: fraction) =
      some (ofDecimal negative (naturalOf (whole ++ fraction)) (-(fraction.length : Int))) := by
  have stops : ∀ c, ('.' :: fraction).head? = some c → isDigit c = false := by
    intro c first
    cases first
    decide
  have ends : ∀ c, ([] : List Char).head? = some c → isDigit c = false := by simp
  obtain ⟨taken, dropped⟩ := takeWhile_append_stop after.2 ends
  rw [List.append_nil] at taken dropped
  rw [readUnsigned?_digits negative digits _ stops]
  simp [taken, dropped, readExponent?]

theorem exists_readUnsigned? (negative : Bool) (shape : UnsignedNumber text) :
    ∃ n, readUnsigned? negative text = some n := by
  cases shape with
  | whole digits => exact ⟨_, readUnsigned?_whole negative digits⟩
  | fraction digits after => exact ⟨_, readUnsigned?_fraction negative digits after⟩

end Binary64

theorem exists_plainNumber? (shape : PlainNumber text) : ∃ n, plainNumber? text = some n := by
  have unsigned : UnsignedNumber (withoutSign text) := by
    rw [← isUnsignedNumber_iff, ← isPlainNumber_eq, isPlainNumber_iff]
    exact shape
  obtain ⟨negative, read⟩ := Binary64.read?_eq text
  rw [plainNumber?, if_pos (isPlainNumber_iff.2 shape), read]
  exact Binary64.exists_readUnsigned? negative unsigned

theorem plainNumber?_eq_none_iff : plainNumber? text = none ↔ ¬ PlainNumber text := by
  constructor
  · intro none shape
    obtain ⟨n, read⟩ := exists_plainNumber? shape
    rw [read] at none
    cases none
  · intro shape
    rw [plainNumber?, if_neg fun plain => shape (isPlainNumber_iff.1 plain)]

end ReportSheets
