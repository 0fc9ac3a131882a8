import ReportSheets.Form.Field
import ReportSheets.Proofs.Calendar.Eras
import ReportSheets.Proofs.Calendar.Written
import ReportSheets.Proofs.Formula.Failure
import ReportSheets.Proofs.Formula.Writings
import ReportSheets.Proofs.Number.Whole

namespace ReportSheets

open Text

def FailsAs {α : Type} (kind : ErrorKind) (outcome : Except Error α) : Prop :=
  ∃ e, outcome = .error e ∧ e.kind = kind

namespace Date

variable {date : Date}

theorem eraYear_of_begun (begun : Era.firstDay ≤ date) :
    ∃ era : Era, era.Covers date ∧ date.eraYear = .ok (era.name, era.yearOf date) := by
  obtain ⟨era, found, covers⟩ := Era.exists_covers begun
  exact ⟨era, covers, by rw [eraYear, found]⟩

theorem eraYear_before (before : ¬ Era.firstDay ≤ date) :
    date.eraYear = .error (.beforeEras date) := by
  rw [eraYear, Era.of?_eq_none_iff.mpr before]

end Date

namespace Function

variable {text : String} {date : Date}

theorem ofDate_of_slashed (shape : Date.Slashed text.toList date.year date.month date.day) :
    ofDate text = .ok (.date date) := by
  rw [ofDate, Date.read?, Date.slashed?_of_slashed shape]
  simp only [Date.ofYmd?_of_isDay date.isDay]
  rfl

theorem ofDate_of_no_day {year : Int} {month day : Nat}
    (shape : Date.Slashed text.toList year month day) (never : ¬ IsDay year month day) :
    ofDate text = .error (.notCalendarDate text) := by
  rw [ofDate, Date.read?, Date.slashed?_of_slashed shape]
  simp only [Date.ofYmd?_of_not_isDay never]
  rfl

theorem ofDate_of_other (other : ∀ year month day, ¬ Date.Slashed text.toList year month day) :
    ofDate text = .ok .absent := by
  rw [ofDate, Date.read?, Date.slashed?_eq_none_iff.mpr other]
  rfl

end Function

namespace Expr

variable {b : Binding} {name : String} {functions : List Function}

/-- Functions of one argument applied to the field's value, the last of them first. -/
def applying (name : String) (functions : List Function) : Expr :=
  functions.foldr (fun f arg => .call f.name [arg]) (.literal name)

theorem applying_nil (name : String) : applying name [] = .literal name := rfl

theorem applying_cons (name : String) (f : Function) (functions : List Function) :
    applying name (f :: functions) = .call f.name [applying name functions] := rfl

theorem isToken_name (f : Function) : IsToken dividers f.name.toList := by
  cases f <;> decide

theorem sound_applying (named : name ≠ "") (token : IsToken dividers name.toList)
    (functions : List Function) : (applying name functions).Sound dividers dividers := by
  induction functions with
  | nil => exact .literal token
  | cons f functions ih =>
    have some : f.name ≠ "" := by cases f <;> decide
    have given : [applying name functions] ≠ [.literal ""] := by
      intro empty
      cases functions with
      | nil => exact named (Expr.literal.inj (List.head_eq_of_cons_eq empty))
      | cons g more => cases List.head_eq_of_cons_eq empty
    refine .call (isToken_name f) some given ?_
    intro arg member
    rw [List.mem_singleton.mp member]
    exact ih

theorem evaluate_applying_nil (name value : String) :
    (applying name []).evaluate ⟨name, value⟩ = .ok (.text value) := by
  rw [applying_nil, evaluate, Binding.literal, if_pos rfl]

theorem evaluate_call_one (b : Binding) (f : Function) (arg : Expr) :
    evaluate b (.call f.name [arg]) = (evaluate b arg).bind fun value => f.apply [value] := by
  rw [evaluate, evaluateAll, evaluateAll]
  cases evaluate b arg with
  | error e => rfl
  | ok value =>
    show applyNamed f.name [value] = f.apply [value]
    rw [applyNamed, Function.named?_name]

end Expr

namespace Field

variable {name location value : String} {functions : List Function}

def applying (name location : String) (functions : List Function) : Field where
  name := name
  location := location
  formula := functions.foldr (fun f arg => f.name ++ "(" ++ arg ++ ")") name

theorem toList_formula (name location : String) (functions : List Function) :
    (applying name location functions).formula.toList = (Expr.applying name functions).written := by
  induction functions with
  | nil => rw [Expr.applying_nil, Expr.written]; rfl
  | cons f functions ih =>
    rw [Expr.applying_cons, Expr.written, Expr.writtenArgs, ← ih]
    simp [applying]

theorem parse_formula (named : name ≠ "") (token : IsToken Expr.dividers name.toList) :
    Expr.parse (applying name location functions).formula =
      .ok (Expr.applying name functions) := by
  have sound := Expr.sound_applying named token functions
  exact Expr.parse_of_written sound (toList_formula name location functions)

theorem cellText_applying (named : name ≠ "") (token : IsToken Expr.dividers name.toList) :
    (applying name location functions).cellText value =
      ((Expr.applying name functions).evaluate ⟨name, value⟩).map Value.cellText := by
  have some : (applying name location functions).formula ≠ "" := by
    cases functions with
    | nil => exact named
    | cons f more => simp [applying]
  rw [cellText, if_neg some, parse_formula named token]
  cases evaluated : (Expr.applying name functions).evaluate ⟨name, value⟩ with
  | error e => simp [bind, Except.bind, applying, evaluated, Except.map]
  | ok result => simp [bind, Except.bind, applying, evaluated, Except.map, pure, Except.pure]

theorem cellText_ctod (named : name ≠ "") (token : IsToken Expr.dividers name.toList) :
    (applying name location [.ctod]).cellText value =
      (Function.ofDate value).map Value.cellText := by
  rw [cellText_applying named token, Expr.applying_cons, Expr.evaluate_call_one,
    Expr.evaluate_applying_nil]
  rfl

theorem cellText_after_ctod (named : name ≠ "") (token : IsToken Expr.dividers name.toList)
    (f : Function) :
    (applying name location [f, .ctod]).cellText value =
      ((Function.ofDate value).bind fun date => f.apply [date]).map Value.cellText := by
  rw [cellText_applying named token, Expr.applying_cons, Expr.evaluate_call_one,
    Expr.applying_cons, Expr.evaluate_call_one, Expr.evaluate_applying_nil]
  rfl

theorem cellText_wyear (named : name ≠ "") (token : IsToken Expr.dividers name.toList)
    {date : Date} (dated : Function.ofDate value = .ok (.date date)) :
    (applying name location [.wyear, .ctod]).cellText value =
      date.eraYear.map fun counted => String.ofList (Binary64.ofNat counted.2).cellText := by
  rw [cellText_after_ctod named token, dated]
  show ((date.eraYear.map fun counted => Value.number (.ofNat counted.2)).map Value.cellText) = _
  cases date.eraYear <;> rfl

theorem cellText_nengo (named : name ≠ "") (token : IsToken Expr.dividers name.toList)
    {date : Date} (dated : Function.ofDate value = .ok (.date date)) :
    (applying name location [.nengo, .ctod]).cellText value = date.eraText := by
  rw [cellText_after_ctod named token, dated]
  show ((date.eraText.map Value.text).map Value.cellText) = _
  cases date.eraText <;> rfl

theorem cellText_year {era : Era} {date : Date} {text : List Char} (listed : era ∈ Era.all)
    (shape : Date.Slashed text date.year date.month date.day) :
    (Binary64.ofNat (era.yearOf date)).cellText = natural (era.yearOf date) := by
  apply Binary64.cellText_ofNat
  have bound := Date.year_lt_of_slashed shape
  have limit : Binary64.integerLimit = 1000000000000000 := rfl
  have start : 1868 ≤ era.start.year := Date.year_le_of_le (Era.firstDay_le era listed)
  rw [Era.yearOf, limit]
  omega

/-- The cell of a text of the shape of a date shows the day with hyphens, its era and the year in it;
there are none of these for a day that does not exist and no era before the first one. Any other text
is no date: its cell is empty, and there is nothing to tell the era of. -/
theorem cellText_of_dates (named : name ≠ "") (token : IsToken Expr.dividers name.toList)
    (location value : String) :
    (∀ date : Date, Date.Slashed value.toList date.year date.month date.day →
      (applying name location [.ctod]).cellText value =
          .ok (String.ofList (value.toList.map fun c => if c = '/' then '-' else c)) ∧
        (Era.firstDay ≤ date → ∃ (era : Era) (year : String), era.Covers date ∧
          year = String.ofList (natural ((date.year - era.start.year).toNat + 1)) ∧
          (applying name location [.wyear, .ctod]).cellText value = .ok year ∧
          (applying name location [.nengo, .ctod]).cellText value =
            .ok (era.name ++ year ++ "年")) ∧
        (¬ Era.firstDay ≤ date →
          FailsAs .format ((applying name location [.wyear, .ctod]).cellText value) ∧
          FailsAs .format ((applying name location [.nengo, .ctod]).cellText value))) ∧
    (∀ year month day, Date.Slashed value.toList year month day → ¬ IsDay year month day →
      FailsAs .format ((applying name location [.ctod]).cellText value) ∧
      FailsAs .format ((applying name location [.wyear, .ctod]).cellText value) ∧
      FailsAs .format ((applying name location [.nengo, .ctod]).cellText value)) ∧
    ((∀ year month day, ¬ Date.Slashed value.toList year month day) →
      (applying name location [.ctod]).cellText value = .ok "" ∧
      FailsAs .type ((applying name location [.wyear, .ctod]).cellText value) ∧
      FailsAs .type ((applying name location [.nengo, .ctod]).cellText value)) := by
  refine ⟨?_, ?_, ?_⟩
  · intro date shape
    have dated := Function.ofDate_of_slashed shape
    rw [cellText_ctod named token, cellText_wyear named token dated,
      cellText_nengo named token dated, Date.eraText, dated]
    refine ⟨?_, ?_, ?_⟩
    · rw [← Date.text_of_slashed shape]
      rfl
    · intro begun
      obtain ⟨era, covers, eraYear⟩ := Date.eraYear_of_begun begun
      refine ⟨era, _, covers, rfl, ?_, ?_⟩
      · rw [eraYear, Except.map, cellText_year covers.listed shape]
        rfl
      · rw [eraYear]
        rfl
    · intro before
      rw [Date.eraYear_before before]
      exact ⟨⟨_, rfl, rfl⟩, ⟨_, rfl, rfl⟩⟩
  · intro year month day shape never
    rw [cellText_ctod named token, cellText_after_ctod named token,
      cellText_after_ctod named token, Function.ofDate_of_no_day shape never]
    exact ⟨⟨_, rfl, rfl⟩, ⟨_, rfl, rfl⟩, ⟨_, rfl, rfl⟩⟩
  · intro other
    rw [cellText_ctod named token, cellText_after_ctod named token,
      cellText_after_ctod named token, Function.ofDate_of_other other]
    exact ⟨rfl, ⟨_, rfl, rfl⟩, ⟨_, rfl, rfl⟩⟩

/-- The first day of an era, the day before the first one, a day that does not exist, and a blank too
many. -/
theorem cellText_of_dates_around_eras :
    (applying "date" "A1" [.ctod]).cellText "2019/05/01" = .ok "2019-05-01" ∧
      (applying "date" "A1" [.nengo, .ctod]).cellText "2019/05/01" = .ok "令和1年" ∧
      FailsAs .format ((applying "date" "A1" [.wyear, .ctod]).cellText "1867/12/31") ∧
      FailsAs .format ((applying "date" "A1" [.ctod]).cellText "2019/02/29") ∧
      (applying "date" "A1" [.ctod]).cellText "2019/05/01 " = .ok "" := by
  have named : "date" ≠ "" := by decide
  have texts := cellText_of_dates named (by decide) "A1"
  obtain ⟨shown, eras, -⟩ := (texts "2019/05/01").1 ⟨2019, 5, 1, by decide⟩
    (Date.slashed_of_slashed? (by decide))
  obtain ⟨-, -, noEra⟩ := (texts "1867/12/31").1 ⟨1867, 12, 31, by decide⟩
    (Date.slashed_of_slashed? (by decide))
  obtain ⟨noDay, -, -⟩ := (texts "2019/02/29").2.1 2019 2 29
    (Date.slashed_of_slashed? (by decide)) (by decide)
  obtain ⟨empty, -, -⟩ := (texts "2019/05/01 ").2.2 (Date.slashed?_eq_none_iff.mp (by decide))
  obtain ⟨era, year, covers, counted, -, text⟩ := eras (by decide)
  let last : Era := ⟨"令和", 2019, 5, 1, by decide⟩
  have later := covers.latest last (by decide) (by decide)
  have only : ∀ era ∈ Era.all, last.start ≤ era.start → era = last := by decide
  rw [counted, only era covers.listed later] at text
  have shows : last.name ++ String.ofList (natural ((2019 - last.start.year).toNat + 1)) ++ "年" =
      "令和1年" := by
    decide
  exact ⟨shown, text.trans (congrArg Except.ok shows), (noEra (by decide)).1, noDay, empty⟩

end Field

end ReportSheets
