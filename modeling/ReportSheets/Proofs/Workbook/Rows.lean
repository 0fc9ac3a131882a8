import Mathlib.Data.List.TakeWhile
import ReportSheets.Workbook.Packed

namespace ReportSheets.Packed

variable {cells : List (CellAddress × SavedCell)} {heights : List (Nat × Binary64)} {fuel row : Nat}

structure SoundRow (r : Row) : Prop where
  inSheet : r.row ≤ CellAddress.maxRow
  single : r.heights = [] ∨ ∃ height, r.heights = [(r.row, height)]

theorem nextRow?_eq_none_iff : nextRow? cells heights = none ↔ cells = [] ∧ heights = [] := by
  cases cells <;> cases heights <;> simp [nextRow?]

theorem first_of_nextRow? (next : nextRow? cells heights = some row) :
    (∃ e, cells.head? = some e ∧ e.1.row = row) ∨ ∃ e, heights.head? = some e ∧ e.1 = row := by
  cases cells with
  | nil =>
    cases heights with
    | nil => cases next
    | cons height heights =>
      cases next
      exact .inr ⟨height, rfl, rfl⟩
  | cons cell cells =>
    cases heights with
    | nil =>
      cases next
      exact .inl ⟨cell, rfl, rfl⟩
    | cons height heights =>
      cases next
      rcases Nat.le_total cell.1.row height.1 with above | below
      · exact .inl ⟨cell, rfl, (Nat.min_eq_left above).symm⟩
      · exact .inr ⟨height, rfl, (Nat.min_eq_right below).symm⟩

theorem length_dropWhile_lt {α : Type} {p : α → Bool} {items : List α} {item : α}
    (first : items.head? = some item) (holds : p item = true) :
    (items.dropWhile p).length < items.length := by
  cases items with
  | nil => cases first
  | cons item items =>
    cases first
    rw [List.dropWhile_cons_of_pos holds]
    exact Nat.lt_succ_of_le (List.dropWhile_suffix p).length_le

theorem flatMap_rowsOf (enough : cells.length + heights.length ≤ fuel) :
    (rowsOf fuel cells heights).flatMap Row.cells = cells ∧
      (rowsOf fuel cells heights).flatMap Row.heights = heights := by
  induction fuel generalizing cells heights with
  | zero =>
    have none : cells = [] ∧ heights = [] := by
      rw [← List.length_eq_zero_iff, ← List.length_eq_zero_iff]
      omega
    rw [none.1, none.2]
    exact ⟨rfl, rfl⟩
  | succ fuel ih =>
    rw [rowsOf]
    split
    · rename_i none
      rw [nextRow?_eq_none_iff] at none
      rw [none.1, none.2]
      exact ⟨rfl, rfl⟩
    · rename_i row next
      have cellsLeft := (List.dropWhile_suffix (l := cells) fun e => e.1.row == row).length_le
      have heightsLeft := (List.dropWhile_suffix (l := heights) fun e => e.1 == row).length_le
      have fewer : (cells.dropWhile fun e => e.1.row == row).length +
          (heights.dropWhile fun e => e.1 == row).length ≤ fuel := by
        rcases first_of_nextRow? next with ⟨e, first, own⟩ | ⟨e, first, own⟩
        · have less := length_dropWhile_lt (p := fun e => e.1.row == row) first (beq_iff_eq.mpr own)
          omega
        · have less := length_dropWhile_lt (p := fun e => e.1 == row) first (beq_iff_eq.mpr own)
          omega
      obtain ⟨laterCells, laterHeights⟩ := ih fewer
      rw [List.flatMap_cons, List.flatMap_cons, laterCells, laterHeights]
      exact ⟨List.takeWhile_append_dropWhile, List.takeWhile_append_dropWhile⟩

theorem single_takeWhile (ordered : InKeyOrder heights) (row : Nat) :
    (heights.takeWhile fun e => e.1 == row) = [] ∨
      ∃ height, (heights.takeWhile fun e => e.1 == row) = [(row, height)] := by
  have apart := ordered.sublist (List.takeWhile_sublist fun (e : Nat × Binary64) => e.1 == row)
  have own : ∀ e ∈ heights.takeWhile fun e => e.1 == row, e.1 = row := fun e member =>
    beq_iff_eq.mp (List.mem_takeWhile_imp (p := fun (e : Nat × Binary64) => e.1 == row) member)
  generalize (heights.takeWhile fun e => e.1 == row) = taken at apart own
  cases taken with
  | nil => exact .inl rfl
  | cons first taken =>
    obtain ⟨number, height⟩ := first
    have here : number = row := own _ List.mem_cons_self
    cases taken with
    | nil => exact .inr ⟨height, by rw [here]⟩
    | cons second taken =>
      have before := (List.pairwise_cons.mp apart).1 second List.mem_cons_self
      have also := own second (by simp)
      rw [also, here, KeyOrder.irrefl] at before
      cases before

theorem sound_of_mem_rowsOf (ordered : InKeyOrder heights)
    (cellsIn : ∀ e ∈ cells, e.1.row ≤ CellAddress.maxRow)
    (heightsIn : ∀ e ∈ heights, e.1 ≤ CellAddress.maxRow) :
    ∀ r ∈ rowsOf fuel cells heights, SoundRow r ∧ ∀ e ∈ r.cells, e ∈ cells := by
  induction fuel generalizing cells heights with
  | zero => exact List.forall_mem_nil _
  | succ fuel ih =>
    rw [rowsOf]
    split
    · exact List.forall_mem_nil _
    · rename_i row next
      have leftCells : ∀ e ∈ cells.dropWhile fun e => e.1.row == row, e ∈ cells := fun e member =>
        (List.dropWhile_suffix _).subset member
      have leftHeights : ∀ e ∈ heights.dropWhile fun e => e.1 == row, e ∈ heights :=
        fun e member => (List.dropWhile_suffix _).subset member
      have inSheet : row ≤ CellAddress.maxRow := by
        rcases first_of_nextRow? next with ⟨e, first, rfl⟩ | ⟨e, first, rfl⟩
        · exact cellsIn e (List.mem_of_mem_head? first)
        · exact heightsIn e (List.mem_of_mem_head? first)
      have later := ih (ordered.sublist (List.dropWhile_sublist _))
        (fun e member => cellsIn e (leftCells e member))
        (fun e member => heightsIn e (leftHeights e member))
      refine List.forall_mem_cons.mpr ⟨⟨⟨inSheet, single_takeWhile ordered row⟩, ?_⟩, ?_⟩
      · exact fun e member => (List.takeWhile_sublist _).subset member
      · intro r member
        exact ⟨(later r member).1, fun e among => leftCells e ((later r member).2 e among)⟩

end ReportSheets.Packed
