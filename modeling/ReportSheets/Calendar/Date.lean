import ReportSheets.Text.Integer

namespace ReportSheets

def isLeapYear (year : Int) : Bool :=
  year % 4 == 0 && (year % 100 != 0 || year % 400 == 0)

def daysInMonth (year : Int) (month : Nat) : Nat :=
  if month = 2 then (if isLeapYear year then 29 else 28)
  else if month = 4 ∨ month = 6 ∨ month = 9 ∨ month = 11 then 30
  else 31

def IsDay (year : Int) (month day : Nat) : Prop :=
  1 ≤ month ∧ month ≤ 12 ∧ 1 ≤ day ∧ day ≤ daysInMonth year month

instance (year : Int) (month day : Nat) : Decidable (IsDay year month day) :=
  inferInstanceAs (Decidable (_ ∧ _))

structure Date where
  year : Int
  month : Nat
  day : Nat
  isDay : IsDay year month day
deriving DecidableEq

namespace Date

def ofYmd? (year : Int) (month day : Nat) : Option Date :=
  if h : IsDay year month day then some ⟨year, month, day, h⟩ else none

def key (d : Date) : Int := (d.year * 16 + d.month) * 32 + d.day

instance : LE Date := ⟨fun a b => a.key ≤ b.key⟩

instance (a b : Date) : Decidable (a ≤ b) := inferInstanceAs (Decidable (a.key ≤ b.key))

theorem day_le (d : Date) : d.day ≤ 31 := by
  have h := d.isDay.2.2.2
  simp only [daysInMonth] at h
  split at h
  · split at h <;> omega
  · split at h <;> omega

theorem key_inj {a b : Date} (h : a.key = b.key) : a = b := by
  have ha := a.day_le
  have hb := b.day_le
  have ma := a.isDay.2.1
  have mb := b.isDay.2.1
  obtain ⟨y, m, d, hd⟩ := a
  obtain ⟨y', m', d', hd'⟩ := b
  simp only [key] at *
  have hy : y = y' := by omega
  have hm : m = m' := by omega
  have hday : d = d' := by omega
  subst hy hm hday
  rfl

/-- Four digits at least, and a sign before years that are not written in four digits. -/
def yearText (year : Int) : List Char :=
  let digits := Text.padded 4 (Text.natural year.natAbs)
  if year < 0 then '-' :: digits else if year ≤ 9999 then digits else '+' :: digits

def written (mark : Char) (d : Date) : List Char :=
  yearText d.year ++ mark :: Text.padded 2 (Text.natural d.month) ++
    mark :: Text.padded 2 (Text.natural d.day)

def text (d : Date) : List Char := d.written '-'

/-- The three numbers of a text of the shape `dddd/dd/dd`. -/
def slashed? : List Char → Option (Int × Nat × Nat)
  | [y₁, y₂, y₃, y₄, s, m₁, m₂, t, d₁, d₂] =>
    if [y₁, y₂, y₃, y₄, m₁, m₂, d₁, d₂].all Text.isDigit && s == '/' && t == '/' then
      some (Text.naturalOf [y₁, y₂, y₃, y₄], Text.naturalOf [m₁, m₂], Text.naturalOf [d₁, d₂])
    else none
  | _ => none

end Date

end ReportSheets
