import ReportSheets.Calendar.Era
import ReportSheets.Proofs.Text.Digits

namespace ReportSheets

structure Text.IsNumeral (width : Nat) (digits : List Char) : Prop where
  length : digits.length = width
  each : ∀ c ∈ digits, isDigit c = true

namespace Text.IsNumeral

variable {width : Nat} {digits : List Char}

theorem padded (numeral : IsNumeral width digits) (positive : 0 < width) :
    Text.padded width (natural (naturalOf digits)) = digits := by
  have some : digits ≠ [] := by
    rintro rfl
    have none := numeral.length
    rw [List.length_nil] at none
    omega
  rw [← numeral.length]
  exact padded_natural numeral.each some

theorem lt (numeral : IsNumeral width digits) : naturalOf digits < 10 ^ width := by
  rw [← numeral.length]
  exact naturalOf_lt numeral.each

theorem map_mark (numeral : IsNumeral width digits) {mark : Char} (other : isDigit mark = false)
    (shown : Char) : digits.map (fun c => if c = mark then shown else c) = digits := by
  have unmarked : ∀ c ∈ digits, (if c = mark then shown else c) = c := by
    intro c member
    rw [if_neg]
    rintro rfl
    rw [numeral.each c member] at other
    cases other
  rw [List.map_congr_left unmarked, List.map_id']

end Text.IsNumeral

namespace Date

open Text

/-- Four digits, two and two, with slashes between them, and the numbers that they make. -/
inductive Slashed : List Char → Int → Nat → Nat → Prop
  | numerals {year month day : List Char} (ofYear : IsNumeral 4 year) (ofMonth : IsNumeral 2 month)
      (ofDay : IsNumeral 2 day) :
      Slashed (year ++ '/' :: (month ++ '/' :: day)) (naturalOf year) (naturalOf month)
        (naturalOf day)

variable {text : List Char} {year : Int} {month day : Nat} {date : Date}

theorem slashed_of_slashed? (read : slashed? text = some (year, month, day)) :
    Slashed text year month day := by
  unfold slashed? at read
  split at read
  · rename_i y₁ y₂ y₃ y₄ s m₁ m₂ t d₁ d₂
    split at read
    · rename_i shape
      simp only [Bool.and_eq_true, beq_iff_eq, List.all_eq_true] at shape
      obtain ⟨⟨digits, rfl⟩, rfl⟩ := shape
      simp only [Option.some.injEq, Prod.mk.injEq] at read
      obtain ⟨rfl, rfl, rfl⟩ := read
      change ∀ c ∈ [y₁, y₂, y₃, y₄] ++ ([m₁, m₂] ++ [d₁, d₂]), isDigit c = true at digits
      rw [List.forall_mem_append, List.forall_mem_append] at digits
      obtain ⟨inYear, inMonth, inDay⟩ := digits
      exact .numerals ⟨rfl, inYear⟩ ⟨rfl, inMonth⟩ ⟨rfl, inDay⟩
    · cases read
  · cases read

theorem slashed?_of_slashed (shape : Slashed text year month day) :
    slashed? text = some (year, month, day) := by
  obtain ⟨ofYear, ofMonth, ofDay⟩ := shape
  rename_i year month day
  match year, month, day, ofYear, ofMonth, ofDay with
  | [y₁, y₂, y₃, y₄], [m₁, m₂], [d₁, d₂], ⟨_, inYear⟩, ⟨_, inMonth⟩, ⟨_, inDay⟩ =>
    simp only [List.forall_mem_cons] at inYear inMonth inDay
    simp [slashed?, inYear, inMonth, inDay]

theorem slashed?_eq_some_iff :
    slashed? text = some (year, month, day) ↔ Slashed text year month day :=
  ⟨slashed_of_slashed?, slashed?_of_slashed⟩

theorem slashed?_eq_none_iff :
    slashed? text = none ↔ ∀ year month day, ¬ Slashed text year month day := by
  simp only [← slashed?_eq_some_iff, Option.eq_none_iff_forall_ne_some, Prod.forall]

theorem yearText_of_numeral {digits : List Char} (numeral : IsNumeral 4 digits) :
    yearText (naturalOf digits) = digits := by
  have bound := numeral.lt
  have small : (naturalOf digits : Int) ≤ 9999 := by omega
  rw [yearText, if_neg (by omega), if_pos small, Int.natAbs_natCast, numeral.padded (by decide)]

/-- The text of a day is the text it was read from with hyphens for the slashes. -/
theorem text_of_slashed (shape : Slashed text date.year date.month date.day) :
    date.text = text.map fun c => if c = '/' then '-' else c := by
  generalize ofYear : date.year = year at shape
  generalize ofMonth : date.month = month at shape
  generalize ofDay : date.day = day at shape
  cases shape with
  | numerals yearDigits monthDigits dayDigits =>
    have slash : isDigit '/' = false := by decide
    rw [Date.text, written, ofYear, ofMonth, ofDay, yearText_of_numeral yearDigits,
      monthDigits.padded (by decide), dayDigits.padded (by decide)]
    simp only [List.map_append, List.map_cons, if_true, yearDigits.map_mark slash,
      monthDigits.map_mark slash, dayDigits.map_mark slash, List.append_assoc, List.cons_append]

theorem year_lt_of_slashed (shape : Slashed text year month day) : year < 10000 := by
  cases shape with
  | numerals ofYear ofMonth ofDay =>
    have bound := ofYear.lt
    omega

theorem ofYmd?_of_isDay (isDay : IsDay year month day) :
    ofYmd? year month day = some ⟨year, month, day, isDay⟩ := dif_pos isDay

theorem ofYmd?_of_not_isDay (never : ¬ IsDay year month day) : ofYmd? year month day = none :=
  dif_neg never

end Date

end ReportSheets
