import ReportSheets.Proofs.Calendar.Eras
import ReportSheets.Proofs.Formula.Dates

namespace ReportSheets

open Text Era

namespace Date

variable {era next : Era} {date other : Date} {place place' year year' : Nat} {name : String}

theorem firstDay_le_of_counts (counts : Counts place era year date) : firstDay ≤ date :=
  le_trans (Era.firstDay_le era (List.mem_of_getElem? counts.listed)) counts.begun

theorem exists_counts (begun : firstDay ≤ date) :
    ∃ place era year, Counts place era year date ∧ date.eraYear = .ok (era.name, year) := by
  obtain ⟨era, covers, counted⟩ := eraYear_of_begun begun
  obtain ⟨place, counts⟩ := counts_of_covers covers
  exact ⟨place, era, _, counts, counted⟩

theorem eraYear_of_counts (counts : Counts place era year date) :
    date.eraYear = .ok (era.name, year) := by
  obtain ⟨place', next, year', again, counted⟩ := exists_counts (firstDay_le_of_counts counts)
  obtain ⟨-, rfl, rfl⟩ := counts.unique again
  exact counted

theorem eraText_of_counts (counts : Counts place era year date) :
    date.eraText = .ok (era.name ++ String.ofList (natural year) ++ "年") := by
  rw [eraText, eraYear_of_counts counts]
  rfl

/-- All names of eras are of two characters, so the digits of the year begin at the same place. -/
theorem length_name : ∀ era ∈ Era.all, era.name.toList.length = 2 := by
  decide

theorem nodup_names : (Era.all.map Era.name).Nodup := by
  decide

theorem eraText_inj (first : Counts place era year date) (second : Counts place' next year' other)
    (same : date.eraText = other.eraText) : place = place' ∧ era = next ∧ year = year' := by
  rw [eraText_of_counts first, eraText_of_counts second, Except.ok.injEq, ← String.toList_inj] at same
  simp only [String.toList_append, String.toList_ofList, List.append_left_inj] at same
  have lengths : era.name.toList.length = next.name.toList.length := by
    rw [length_name era (List.mem_of_getElem? first.listed),
      length_name next (List.mem_of_getElem? second.listed)]
  obtain ⟨names, digits⟩ := List.append_inj same lengths
  have named : ∀ {place : Nat} {era : Era}, Era.all[place]? = some era →
      (Era.all.map Era.name)[place]? = some era.name := by
    intro place era listed
    rw [List.getElem?_map, listed, Option.map_some]
  have places : (Era.all.map Era.name)[place]? = (Era.all.map Era.name)[place']? := by
    rw [named first.listed, named second.listed, String.toList_inj.mp names]
  have inside : place < (Era.all.map Era.name).length := by
    rw [List.length_map]
    exact (List.getElem?_eq_some_iff.mp first.listed).1
  have years := congrArg naturalOf digits
  rw [naturalOf_natural, naturalOf_natural] at years
  obtain rfl := (List.getElem?_inj inside nodup_names).mp places
  exact ⟨rfl, Option.some.inj (first.listed.symm.trans second.listed), years⟩

theorem eraText_eq_iff (first : Counts place era year date)
    (second : Counts place' next year' other) :
    date.eraText = other.eraText ↔ era = next ∧ date.year = other.year := by
  have counted := first.counted
  have counted' := second.counted
  constructor
  · intro same
    obtain ⟨-, rfl, rfl⟩ := eraText_inj first second same
    exact ⟨rfl, by omega⟩
  · rintro ⟨rfl, years⟩
    have same : year = year' := by omega
    rw [eraText_of_counts first, eraText_of_counts second, same]

/-- From the first era on, a day is given the one era that it lies in and the year of it, which is at
least 1 and is 1 in the rest of the Gregorian year that the era begins in. Eras and years never go back
from a day to a later one, and go on with every Gregorian year. The text of era and year is shared by
the days of one era and one Gregorian year alone, so that with the month and the day it names the day.
There is no era before the first. -/
theorem eraYear_of_days :
    (∀ date, firstDay ≤ date → ∃ place era year, Counts place era year date ∧
      (∀ place' next year', Counts place' next year' date →
        place' = place ∧ next = era ∧ year' = year) ∧
      date.eraYear = .ok (era.name, year) ∧ 1 ≤ year ∧ (year = 1 ↔ date.year = era.start.year)) ∧
    (∀ date later place era year place' next year', date ≤ later → Counts place era year date →
      Counts place' next year' later →
      (place < place' ∨ place = place' ∧ year ≤ year') ∧
      (date.year < later.year → place < place' ∨ place = place' ∧ year < year')) ∧
    (∀ date other place era year place' next year', Counts place era year date →
      Counts place' next year' other →
      (date.eraText = other.eraText ↔ era = next ∧ date.year = other.year)) ∧
    (∀ date other : Date, firstDay ≤ date → firstDay ≤ other → date.eraText = other.eraText →
      date.month = other.month → date.day = other.day → date = other) ∧
    ∀ date, ¬ firstDay ≤ date → FailsAs .format date.eraYear ∧ FailsAs .format date.eraText := by
  refine ⟨?_, ?_, ?_, ?_, ?_⟩
  · intro date begun
    obtain ⟨place, era, year, counts, counted⟩ := exists_counts begun
    exact ⟨place, era, year, counts, fun place' next year' again => again.unique counts, counted,
      counts.year_pos, counts.year_eq_one_iff⟩
  · intro date later place era year place' next year' order first second
    exact first.order_of_le order second
  · intro date other place era year place' next year' first second
    exact eraText_eq_iff first second
  · intro date other begun begun' same month day
    obtain ⟨_, _, _, first, -⟩ := exists_counts begun
    obtain ⟨_, _, _, second, -⟩ := exists_counts begun'
    have year := ((eraText_eq_iff first second).mp same).2
    apply key_inj
    rw [key, key, year, month, day]
  · intro date before
    rw [eraText, eraYear_before before]
    exact ⟨⟨_, rfl, rfl⟩, ⟨_, rfl, rfl⟩⟩

theorem isDay_eve : IsDay 1989 1 7 := by decide

theorem isDay_dawn : IsDay 1989 1 8 := by decide

theorem isDay_before : IsDay 1867 12 31 := by decide

theorem isDay_longBefore : IsDay (-44) 3 15 := by decide

def eve : Date := ⟨1989, 1, 7, isDay_eve⟩

def dawn : Date := ⟨1989, 1, 8, isDay_dawn⟩

theorem eraYear_of_days_around_dawn :
    eve.eraYear = .ok ("昭和", 64) ∧ dawn.eraYear = .ok ("平成", 1) ∧
      (2 < 3 ∨ 2 = 3 ∧ 64 ≤ 1) ∧ eve.eraText ≠ dawn.eraText ∧
      FailsAs .format (eraYear ⟨1867, 12, 31, isDay_before⟩) ∧
      FailsAs .format (eraYear ⟨-44, 3, 15, isDay_longBefore⟩) := by
  obtain ⟨counted, order, texts, -, early⟩ := eraYear_of_days
  have old : Counts 2 Era.all[2] 64 eve := by
    refine ⟨rfl, by decide, ?_, rfl⟩
    intro next following
    rw [← Option.some.inj following]
    decide
  have new : Counts 3 Era.all[3] 1 dawn := by
    refine ⟨rfl, by decide, ?_, rfl⟩
    intro next following
    rw [← Option.some.inj following]
    decide
  have read : ∀ {date place era year}, firstDay ≤ date → Counts place era year date →
      date.eraYear = .ok (era.name, year) := by
    intro date place era year begun counts
    obtain ⟨_, _, _, _, only, given, -⟩ := counted date begun
    obtain ⟨-, rfl, rfl⟩ := only _ _ _ counts
    exact given
  refine ⟨read (by decide) old, read (by decide) new, ?_, ?_, (early _ (by decide)).1,
    (early _ (by decide)).1⟩
  · exact (order _ _ _ _ _ _ _ _ (by decide) old new).1
  · intro same
    have eras := ((texts _ _ _ _ _ _ _ _ old new).mp same).1
    exact absurd eras (by decide)

end Date

end ReportSheets
