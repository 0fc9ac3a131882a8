import ReportSheets.Calendar.Era

namespace ReportSheets

theorem Date.le_refl (date : Date) : date ≤ date := Int.le_refl _

theorem Date.le_trans {a b c : Date} (first : a ≤ b) (second : b ≤ c) : a ≤ c :=
  Int.le_trans first second

theorem Date.le_of_not_le {a b : Date} (order : ¬ a ≤ b) : b ≤ a :=
  Int.le_of_lt (Int.not_le.mp order)

theorem Date.year_le_of_le {a b : Date} (order : a ≤ b) : a.year ≤ b.year := by
  have keys : (a.year * 16 + a.month) * 32 + a.day ≤ (b.year * 16 + b.month) * 32 + b.day := order
  have month := b.isDay.2.1
  have day := b.day_le
  omega

namespace Era

variable {era next : Era} {date later : Date} {place place' year year' : Nat}

theorem isDay_first : IsDay 1868 1 1 := by decide

def firstDay : Date := ⟨1868, 1, 1, isDay_first⟩

structure Covers (era : Era) (date : Date) : Prop where
  listed : era ∈ all
  begun : era.start ≤ date
  latest : ∀ other ∈ all, other.start ≤ date → other.start ≤ era.start

theorem latest_first : all.reverse.Pairwise fun later earlier => earlier.start ≤ later.start := by
  decide

theorem firstDay_le : ∀ era ∈ all, firstDay ≤ era.start := by
  decide

theorem covers_of_of? (found : of? date = some era) : era.Covers date := by
  obtain ⟨begun, after, before, whole, notBegun⟩ := List.find?_eq_some_iff_append.mp found
  have member : ∀ other, other ∈ all ↔ other ∈ after ++ era :: before := by
    intro other
    rw [← whole, List.mem_reverse]
  refine ⟨(member era).mpr (by simp), of_decide_eq_true begun, ?_⟩
  intro other listed otherBegun
  have order := latest_first
  rw [whole] at order
  rcases List.mem_append.mp ((member other).mp listed) with later | rest
  · have refused := notBegun other later
    simp [otherBegun] at refused
  · rcases List.mem_cons.mp rest with rfl | earlier
    · exact Date.le_refl _
    · exact List.rel_of_pairwise_cons (List.pairwise_append.mp order).2.1 earlier

theorem of?_eq_none_iff : of? date = none ↔ ¬ firstDay ≤ date := by
  rw [of?, List.find?_eq_none]
  constructor
  · intro none begun
    have first : ⟨"明治", firstDay⟩ ∈ all.reverse := by decide
    exact none _ first (decide_eq_true begun)
  · intro before era member begun
    apply before
    exact Date.le_trans (firstDay_le era (List.mem_reverse.mp member)) (of_decide_eq_true begun)

theorem exists_covers (begun : firstDay ≤ date) : ∃ era, of? date = some era ∧ era.Covers date := by
  cases found : of? date with
  | none => exact absurd begun (of?_eq_none_iff.1 found)
  | some era => exact ⟨era, rfl, covers_of_of? found⟩

theorem start_increasing : all.Pairwise fun earlier later => ¬ later.start ≤ earlier.start := by
  decide

theorem start_le_start (first : all[place]? = some era) (second : all[place']? = some next)
    (order : place ≤ place') : era.start ≤ next.start := by
  obtain ⟨bound, rfl⟩ := List.getElem?_eq_some_iff.mp first
  obtain ⟨bound', rfl⟩ := List.getElem?_eq_some_iff.mp second
  rcases Nat.eq_or_lt_of_le order with rfl | before
  · exact Date.le_refl _
  · have apart := List.pairwise_iff_getElem.mp start_increasing place place' bound bound' before
    exact Date.le_of_not_le apart

/-- The day lies in the era at this place, which has begun by then and is not followed by the next one
yet, and in this year of it, where the Gregorian year that the era begins in is the first. -/
structure Counts (place : Nat) (era : Era) (year : Nat) (date : Date) : Prop where
  listed : all[place]? = some era
  begun : era.start ≤ date
  unended : ∀ next, all[place + 1]? = some next → ¬ next.start ≤ date
  counted : (year : Int) + era.start.year = date.year + 1

theorem counts_of_covers (covers : era.Covers date) :
    ∃ place, Counts place era (era.yearOf date) date := by
  obtain ⟨place, bound, found⟩ := List.getElem_of_mem covers.listed
  have listed : all[place]? = some era := List.getElem?_eq_some_iff.mpr ⟨bound, found⟩
  refine ⟨place, listed, covers.begun, ?_, ?_⟩
  · intro next following begun
    obtain ⟨bound', rfl⟩ := List.getElem?_eq_some_iff.mp following
    have apart := List.pairwise_iff_getElem.mp start_increasing place (place + 1) bound bound'
      (Nat.lt_succ_self place)
    rw [found] at apart
    exact apart (covers.latest _ (List.getElem_mem bound') begun)
  · have years := Date.year_le_of_le covers.begun
    rw [yearOf]
    omega

namespace Counts

theorem place_le_of_le (order : date ≤ later) (first : Counts place era year date)
    (second : Counts place' next year' later) : place ≤ place' := by
  rcases Nat.lt_or_ge place' place with before | after
  · have bound := (List.getElem?_eq_some_iff.mp first.listed).1
    have following : all[place' + 1]? = some all[place' + 1] :=
      List.getElem?_eq_getElem (Nat.lt_of_le_of_lt before bound)
    have begun := Date.le_trans (start_le_start following first.listed before) first.begun
    exact absurd (Date.le_trans begun order) (second.unended _ following)
  · exact after

theorem unique (first : Counts place era year date) (second : Counts place' next year' date) :
    place = place' ∧ era = next ∧ year = year' := by
  have same := Nat.le_antisymm (first.place_le_of_le (Date.le_refl date) second)
    (second.place_le_of_le (Date.le_refl date) first)
  subst same
  have only : era = next := Option.some.inj (first.listed.symm.trans second.listed)
  subst only
  have counted := first.counted
  have counted' := second.counted
  exact ⟨rfl, rfl, by omega⟩

theorem year_pos (counts : Counts place era year date) : 1 ≤ year := by
  have years := Date.year_le_of_le counts.begun
  have counted := counts.counted
  omega

theorem year_eq_one_iff (counts : Counts place era year date) :
    year = 1 ↔ date.year = era.start.year := by
  have counted := counts.counted
  omega

/-- A later day lies in a later era, or in the same one and no earlier year of it. -/
theorem order_of_le (order : date ≤ later) (first : Counts place era year date)
    (second : Counts place' next year' later) :
    (place < place' ∨ place = place' ∧ year ≤ year') ∧
      (date.year < later.year → place < place' ∨ place = place' ∧ year < year') := by
  rcases Nat.eq_or_lt_of_le (first.place_le_of_le order second) with rfl | before
  · have only : era = next := Option.some.inj (first.listed.symm.trans second.listed)
    subst only
    have years := Date.year_le_of_le order
    have counted := first.counted
    have counted' := second.counted
    refine ⟨.inr ⟨rfl, by omega⟩, fun after => .inr ⟨rfl, by omega⟩⟩
  · exact ⟨.inl before, fun _ => .inl before⟩

end Counts

end Era

end ReportSheets
