import Mathlib.Data.List.Basic
import Mathlib.Tactic.Ring
import ReportSheets.Proofs.Number.Whole
import ReportSheets.Workbook.Saved

namespace ReportSheets

namespace Layout

variable {columns : List ColumnWidth} {column pixels : Nat}

theorem unitsPerOne_parts {places : Nat} (all : 1066 = places) :
    Magnitude.unitsPerOne = 2 ^ places * 256 := by
  have total : 1074 = places + 8 := by omega
  rw [Magnitude.unitsPerOne_eq total, Nat.pow_add]

theorem nearest?_parts {n den places : Nat} (all : 1066 = places) (small : n < 2 ^ 20)
    (positive : 0 < den) :
    ∃ m, Magnitude.nearest? (n * 2 ^ places * den) den = some m ∧ m.units = n * 2 ^ places := by
  have bits : n.log2 ≤ 52 := Magnitude.log2_le_of_small (by omega)
  exact Magnitude.nearest?_exact (by omega) (by omega) positive

/-- A width in a file is the whole number of parts below the pixels. -/
theorem savedWidth_eq {places : Nat} (all : 1066 = places) (narrow : pixels ≤ widest) :
    ∃ width, savedWidth pixels = .finite false width ∧
      width.units = 256 * pixels / 7 * 2 ^ places := by
  simp only [widest] at narrow
  obtain ⟨width, nearest, units⟩ :=
    nearest?_parts all (show 256 * pixels / 7 < 2 ^ 20 by omega) (show 0 < 256 by decide)
  refine ⟨width, ?_, units⟩
  rw [savedWidth, Binary64.ofRatio, unitsPerOne_parts all, ← Nat.mul_assoc, nearest,
    Option.elim_some]

theorem pixelsOf_savedWidth (narrow : pixels ≤ widest) :
    ColumnWidth.pixelsOf (savedWidth pixels) = pixels := by
  obtain ⟨places, all⟩ : ∃ places, 1066 = places := ⟨_, rfl⟩
  obtain ⟨width, saved, units⟩ := savedWidth_eq all narrow
  obtain ⟨parts, isParts⟩ : ∃ parts, 256 * pixels / 7 = parts := ⟨_, rfl⟩
  rw [isParts] at units
  have few : 7 * parts < 2 ^ 20 := by
    simp only [widest] at narrow
    omega
  obtain ⟨product, scaled, productUnits⟩ := nearest?_parts all few Nat.one_pos
  have factor : width.units * 7 = 7 * parts * 2 ^ places * 1 := by
    rw [units, Nat.mul_one, Nat.mul_comm, Nat.mul_assoc]
  have rounded : (2 * (7 * parts * 2 ^ places) + 2 ^ places * 256) / (2 * (2 ^ places * 256)) =
      pixels := by
    have apart : 2 * (7 * parts * 2 ^ places) + 2 ^ places * 256 =
        2 ^ places * (14 * parts + 256) := by ring
    have whole : 2 * (2 ^ places * 256) = 2 ^ places * 512 := by ring
    rw [apart, whole, Nat.mul_div_mul_left _ _ (Nat.two_pow_pos places)]
    omega
  have within : pixels ≤ ColumnWidth.maxPixels := Nat.le_trans narrow (by decide)
  rw [ColumnWidth.pixelsOf, saved, Binary64.scaleBy_finite (factor ▸ scaled),
    Binary64.roundedTo_finite, productUnits, unitsPerOne_parts all, rounded,
    Nat.min_eq_right within]

theorem first_le_last_of_mem {cells : List (Nat × Nat)} {run : Nat × Nat × Nat}
    (member : run ∈ joinColumns cells) : run.1 ≤ run.2.1 := by
  induction cells generalizing run with
  | nil => cases member
  | cons cell rest ih =>
    rw [joinColumns] at member
    split at member
    · rename_i first last width more joined
      have ends : first ≤ last := ih (show (first, last, width) ∈ joinColumns rest by simp [joined])
      have later : ∀ run ∈ more, run.1 ≤ run.2.1 := fun run among => ih (by simp [joined, among])
      split at member
      · rename_i follows
        rcases List.mem_cons.mp member with rfl | among
        · simp only
          omega
        · exact later run among
      · rcases List.mem_cons.mp member with rfl | among
        · exact Nat.le_refl _
        · rcases List.mem_cons.mp among with rfl | among
          · exact ends
          · exact later run among
    · rw [List.mem_singleton.mp member]

/-- The runs hold the columns that they were joined from, each with its pixels. -/
theorem exists_run_iff {cells : List (Nat × Nat)} :
    (∃ run ∈ joinColumns cells, run.1 ≤ column ∧ column ≤ run.2.1 ∧ run.2.2 = pixels) ↔
      (column, pixels) ∈ cells := by
  induction cells with
  | nil => simp [joinColumns]
  | cons cell rest ih =>
    obtain ⟨start, wide⟩ := cell
    have here : start ≤ column ∧ column ≤ start ∧ wide = pixels ↔
        (column, pixels) = (start, wide) := by
      rw [Prod.mk.injEq]
      omega
    rw [List.mem_cons, ← ih, ← here]
    rw [joinColumns]
    split
    · rename_i first last width more joined
      have ends : first ≤ last :=
        first_le_last_of_mem (show (first, last, width) ∈ joinColumns rest by simp [joined])
      -- The column either goes in front of the first run or makes one of its own.
      split
      · rename_i follows
        obtain ⟨rfl, rfl⟩ := follows
        have apart : start ≤ column ∧ column ≤ last ∧ width = pixels ↔
            (start ≤ column ∧ column ≤ start ∧ width = pixels) ∨
              (start + 1 ≤ column ∧ column ≤ last ∧ width = pixels) := by omega
        simp only [joined, List.exists_mem_cons_iff, apart, or_assoc]
      · simp only [joined, List.exists_mem_cons_iff]
    · rename_i joined
      simp [joined]

theorem pixelsAt_eq_some_of_agree
    (covered : ∃ c ∈ columns, c.first ≤ column ∧ column ≤ c.last)
    (agree : ∀ c ∈ columns, c.first ≤ column → column ≤ c.last → c.pixels = pixels) :
    pixelsAt columns column = some pixels := by
  obtain ⟨c, member, covers⟩ := covered
  cases found : columns.reverse.find? fun c => c.first ≤ column && column ≤ c.last with
  | none =>
    have never := List.find?_eq_none.mp found c (List.mem_reverse.mpr member)
    simp [covers] at never
  | some last =>
    have covers := List.find?_some found
    simp only [Bool.and_eq_true, decide_eq_true_eq] at covers
    have among : last ∈ columns := List.mem_reverse.mp (List.mem_of_find?_eq_some found)
    rw [pixelsAt, found, Option.map_some, agree last among covers.1 covers.2]

theorem pixelsAt_eq_none_iff :
    pixelsAt columns column = none ↔ ∀ c ∈ columns, ¬ (c.first ≤ column ∧ column ≤ c.last) := by
  simp [pixelsAt]

theorem mem_columnsWithPixels_iff :
    (column, pixels) ∈ columnsWithPixels columns ↔
      column ≤ CellAddress.maxCol ∧
        (pixelsAt columns column).map (fun found => min found widest) = some pixels := by
  simp only [columnsWithPixels, List.mem_filterMap, List.mem_range, Nat.lt_succ_iff,
    Option.map_eq_some_iff, Prod.mk.injEq]
  constructor
  · rintro ⟨_, within, found, at_, rfl, rfl⟩
    exact ⟨within, found, at_, rfl⟩
  · rintro ⟨within, found, at_, rfl⟩
    exact ⟨column, within, found, at_, rfl, rfl⟩

theorem saved_of_withPixels (member : (column, pixels) ∈ columnsWithPixels columns) :
    ∃ c ∈ savedColumns columns, c.first ≤ column ∧ column ≤ c.last := by
  obtain ⟨run, joined, starts, ends, -⟩ := exists_run_iff.2 member
  exact ⟨_, List.mem_map_of_mem joined, starts, ends⟩

/-- The ranges in a file say of each of their columns what the ranges of the sheet say of it. -/
theorem withPixels_of_saved {c : ColumnWidth} (member : c ∈ savedColumns columns)
    (starts : c.first ≤ column) (ends : column ≤ c.last) :
    (column, c.pixels) ∈ columnsWithPixels columns := by
  obtain ⟨run, joined, rfl⟩ := List.mem_map.mp member
  have listed : (column, run.2.2) ∈ columnsWithPixels columns :=
    exists_run_iff.1 ⟨run, joined, starts, ends, rfl⟩
  obtain ⟨-, found⟩ := mem_columnsWithPixels_iff.1 listed
  obtain ⟨given, -, held⟩ := Option.map_eq_some_iff.mp found
  have narrow : run.2.2 ≤ widest := held ▸ Nat.min_le_right given widest
  rw [ColumnWidth.pixels, pixelsOf_savedWidth narrow]
  exact listed

/-- Saving leaves the pixels of a column, as far as there may be so many. -/
theorem pixelsAt_savedColumns (inSheet : column ≤ CellAddress.maxCol) :
    pixelsAt (savedColumns columns) column =
      (pixelsAt columns column).map fun found => min found widest := by
  cases found : (pixelsAt columns column).map fun found => min found widest with
  | none =>
    refine pixelsAt_eq_none_iff.2 fun c member covers => ?_
    obtain ⟨-, some⟩ := mem_columnsWithPixels_iff.1
      (withPixels_of_saved member covers.1 covers.2)
    rw [found] at some
    cases some
  | some pixels =>
    refine pixelsAt_eq_some_of_agree
      (saved_of_withPixels (mem_columnsWithPixels_iff.2 ⟨inSheet, found⟩)) ?_
    intro c member starts ends
    obtain ⟨-, same⟩ := mem_columnsWithPixels_iff.1 (withPixels_of_saved member starts ends)
    rw [found, Option.some.injEq] at same
    exact same.symm

theorem columnsWithPixels_savedColumns :
    columnsWithPixels (savedColumns columns) = columnsWithPixels columns := by
  refine List.filterMap_congr fun column listed => ?_
  have inSheet : column ≤ CellAddress.maxCol := Nat.lt_succ_iff.mp (List.mem_range.mp listed)
  rw [pixelsAt_savedColumns inSheet, Option.map_map]
  congr 1
  funext pixels
  simp only [Function.comp_apply, Nat.min_assoc, Nat.min_self]

theorem savedColumns_savedColumns : savedColumns (savedColumns columns) = savedColumns columns := by
  rw [savedColumns, columnsWithPixels_savedColumns, ← savedColumns]

theorem checkColumns_eq_ok_iff :
    checkColumns columns = .ok () ↔
      ∀ c ∈ columns, c.first ≤ c.last ∧ c.last ≤ CellAddress.maxCol := by
  induction columns with
  | nil => simp [checkColumns]
  | cons c rest ih =>
    rw [checkColumns, List.forall_mem_cons, ← ih]
    split
    · simp only [reduceCtorEq, false_iff]
      omega
    · split
      · simp only [reduceCtorEq, false_iff]
        omega
      · simp only [iff_and_self]
        omega

theorem checkColumns_savedColumns : checkColumns (savedColumns columns) = .ok () := by
  refine checkColumns_eq_ok_iff.2 fun c member => ?_
  obtain ⟨run, joined, rfl⟩ := List.mem_map.mp member
  have ends := first_le_last_of_mem joined
  have listed := withPixels_of_saved member ends (Nat.le_refl _)
  exact ⟨ends, (mem_columnsWithPixels_iff.1 listed).1⟩

theorem pixelsAt_beyond (fits : checkColumns columns = .ok ())
    (beyond : CellAddress.maxCol < column) : pixelsAt columns column = none := by
  refine pixelsAt_eq_none_iff.2 fun c member covers => ?_
  have within := (checkColumns_eq_ok_iff.1 fits c member).2
  omega

theorem pixels_le_widest (narrow : ∀ c ∈ columns, c.pixels ≤ widest)
    (found : pixelsAt columns column = some pixels) : pixels ≤ widest := by
  obtain ⟨c, last, rfl⟩ := Option.map_eq_some_iff.mp found
  exact narrow c (List.mem_reverse.mp (List.mem_of_find?_eq_some last))

theorem pixelsAt_savedColumns_of_narrow (fits : checkColumns columns = .ok ())
    (narrow : ∀ c ∈ columns, c.pixels ≤ widest) (column : Nat) :
    pixelsAt (savedColumns columns) column = pixelsAt columns column := by
  by_cases inSheet : column ≤ CellAddress.maxCol
  · rw [pixelsAt_savedColumns inSheet]
    cases found : pixelsAt columns column with
    | none => rfl
    | some pixels => rw [Option.map_some, Nat.min_eq_left (pixels_le_widest narrow found)]
  · have beyond := Nat.lt_of_not_le inSheet
    rw [pixelsAt_beyond fits beyond, pixelsAt_beyond checkColumns_savedColumns beyond]

end Layout

end ReportSheets
