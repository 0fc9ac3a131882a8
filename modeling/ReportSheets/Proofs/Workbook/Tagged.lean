import Mathlib.Data.List.InsertIdx
import Mathlib.Data.List.Nodup
import ReportSheets.Proofs.Workbook.Edited

namespace ReportSheets

structure TaggedBook where
  order : List Nat
  active : Option Nat
  sheet : Nat → Sheet
  /-- Tags from here on have not been given to any sheet. -/
  fresh : Nat

namespace TaggedBook

def following? (tag : Nat) : List Nat → Option Nat
  | [] => none
  | first :: rest => if first = tag then rest.head? else following? tag rest

/-- What becomes active when an active sheet is taken out: the sheet that followed it, or else the
last one left. -/
def heir? (order : List Nat) (tag : Nat) : Option Nat :=
  (following? tag order).or (order.erase tag).getLast?

def named (b : TaggedBook) (name : String) : Bool :=
  b.order.any fun tag => sameName (b.sheet tag).name name

def append (b : TaggedBook) (sheet : Sheet) : TaggedBook :=
  { order := b.order ++ [b.fresh]
    active := b.active.or (some b.fresh)
    sheet := Function.update b.sheet b.fresh sheet
    fresh := b.fresh + 1 }

def drop (b : TaggedBook) (tag : Nat) : TaggedBook :=
  { b with
    order := b.order.erase tag
    active := if b.active = some tag then heir? b.order tag else b.active }

def write (b : TaggedBook) (tag : Nat) (address : CellAddress) (text : String) : TaggedBook :=
  { b with sheet := Function.update b.sheet tag ((b.sheet tag).setCell address (.text text)) }

def add (b : TaggedBook) (sheet : Sheet) : Except Error (EditAnswer × TaggedBook) :=
  match nameFault? sheet.name with
  | some fault => .error (.sheetName sheet.name fault)
  | none =>
    if b.named sheet.name then .error (.sheetExists sheet.name)
    else .ok (.index b.order.length, b.append sheet)

def onTag (b : TaggedBook) (index : Nat) (edit : Nat → Except Error (EditAnswer × TaggedBook)) :
    Except Error (EditAnswer × TaggedBook) :=
  match b.order[index]? with
  | some tag => edit tag
  | none => .error (.sheetIndex index b.order.length)

def edit (b : TaggedBook) : WorkbookEdit → Except Error (EditAnswer × TaggedBook)
  | .add sheet => b.add sheet
  | .clone index newName => b.onTag index fun tag => b.add { b.sheet tag with name := newName }
  | .remove index => b.onTag index fun tag => .ok (.removed (b.sheet tag), b.drop tag)
  | .activate index => b.onTag index fun tag => .ok (.done, { b with active := some tag })
  | .setText address text =>
    match b.active with
    | some tag => .ok (.done, b.write tag address text)
    | none => .error .noActiveSheet

def perform (b : TaggedBook) (e : WorkbookEdit) : Except Error EditAnswer × TaggedBook :=
  match b.edit e with
  | .ok (answer, after) => (.ok answer, after)
  | .error fault => (.error fault, b)

def performAll (b : TaggedBook) (edits : List WorkbookEdit) : TaggedBook :=
  edits.foldl (fun b e => (b.perform e).2) b

def answers (b : TaggedBook) : List WorkbookEdit → List (Except Error EditAnswer)
  | [] => []
  | e :: more => (b.perform e).1 :: (b.perform e).2.answers more

theorem following?_middle {before after : List Nat} {tag : Nat} (first : tag ∉ before) :
    following? tag (before ++ tag :: after) = after.head? := by
  induction before with
  | nil => exact if_pos rfl
  | cons other before ih =>
    obtain ⟨different, later⟩ := not_or.mp (List.mem_cons.not.mp first)
    rw [List.cons_append, following?, if_neg (Ne.symm different), ih later]

theorem heir?_middle {before after : List Nat} {tag : Nat} (first : tag ∉ before) :
    heir? (before ++ tag :: after) tag = after.head?.or before.getLast? := by
  rw [heir?, following?_middle first, List.erase_append_right _ first, List.erase_cons_head]
  cases after with
  | nil => rw [List.append_nil]
  | cons next rest => rfl

end TaggedBook

namespace Workbook

def answers (wb : Workbook) : List WorkbookEdit → List (Except Error EditAnswer)
  | [] => []
  | e :: more => (wb.perform e).1 :: (wb.perform e).2.answers more

def tagged (wb : Workbook) : TaggedBook :=
  { order := List.range wb.size
    active := some wb.active
    sheet := fun tag => (wb.sheets[tag]?).getD { name := "" }
    fresh := wb.size }

structure InStep (wb : Workbook) (b : TaggedBook) : Prop where
  sheets : wb.sheets = b.order.map b.sheet
  active : b.active = b.order[wb.active]?
  kept : wb.ActiveKept
  unique : b.order.Nodup
  below : ∀ tag ∈ b.order, tag < b.fresh

/-- Both refuse an edit for the same reason, or both make it, give the same answer and stay in
step. -/
inductive Agree : Except Error (EditAnswer × Workbook) → Except Error (EditAnswer × TaggedBook) → Prop
  | refused (e : Error) : Agree (.error e) (.error e)
  | done (answer : EditAnswer) {wb : Workbook} {b : TaggedBook} (inStep : wb.InStep b) :
      Agree (.ok (answer, wb)) (.ok (answer, b))

theorem exists_around {α : Type} {items : List α} {item : α} {index : Nat}
    (found : items[index]? = some item) :
    ∃ before after, items = before ++ item :: after ∧ before.length = index := by
  obtain ⟨inside, rfl⟩ := List.getElem?_eq_some_iff.mp found
  refine ⟨items.take index, items.drop (index + 1), ?_, List.length_take_of_le (Nat.le_of_lt inside)⟩
  rw [List.getElem_cons_drop, List.take_append_drop]

/-- Where the active item is found again once the item between `before` and `after` is gone. -/
theorem getElem?_activeAfterRemoval {α : Type} {before after : List α} {item : α} {active : Nat}
    (inside : active < (before ++ item :: after).length) :
    (before ++ after)[activeAfterRemoval active before.length (before ++ after).length]? =
      if active = before.length then after.head?.or before.getLast?
      else (before ++ item :: after)[active]? := by
  simp only [List.length_append, List.length_cons] at inside
  simp only [activeAfterRemoval, List.length_append]
  -- an index ahead of the gap stays, one at the gap moves on or back, one behind it shifts
  rcases Nat.lt_trichotomy active before.length with ahead | rfl | behind
  · have stays : ¬ (before.length < active ∨ active = before.length + after.length ∧ 0 < active) := by
      omega
    rw [if_neg stays, if_neg (Nat.ne_of_lt ahead), List.getElem?_append_left ahead,
      List.getElem?_append_left ahead]
  · rw [if_pos rfl]
    cases after with
    | nil =>
      rw [List.append_nil, List.head?_nil, Option.none_or, List.getLast?_eq_getElem?]
      cases before <;> simp
    | cons next rest => simp
  · have shifts : before.length < active ∨ active = before.length + after.length ∧ 0 < active :=
      .inl behind
    rw [if_pos shifts, if_neg (Nat.ne_of_gt behind), List.getElem?_append_right (by omega),
      List.getElem?_append_right (by omega)]
    obtain ⟨distance, rfl⟩ := Nat.exists_eq_add_of_lt behind
    have before_item : before.length + distance + 1 - before.length = distance + 1 := by omega
    have without_item : before.length + distance + 1 - 1 - before.length = distance := by omega
    rw [before_item, without_item, List.getElem?_cons_succ]

namespace InStep

variable {wb : Workbook} {b : TaggedBook}

theorem size (inStep : wb.InStep b) : wb.size = b.order.length := by
  rw [Workbook.size, inStep.sheets, List.length_map]

theorem getElem? (inStep : wb.InStep b) (index : Nat) :
    wb.sheets[index]? = (b.order[index]?).map b.sheet := by
  rw [inStep.sheets, List.getElem?_map]

theorem isSome_indexOf? (inStep : wb.InStep b) (name : String) :
    (wb.indexOf? name).isSome = b.named name := by
  rw [indexOf?, List.findIdx?_isSome, inStep.sheets, List.any_map]
  rfl

theorem append {sheet : Sheet} (inStep : wb.InStep b) (fits : nameFault? sheet.name = none)
    (free : wb.indexOf? sheet.name = none) :
    InStep { wb with sheets := wb.sheets ++ [sheet] } (b.append sheet) := by
  refine ⟨?_, ?_, inStep.kept.of_edited (.appended sheet fits free), ?_, ?_⟩
  · have others : b.order.map (Function.update b.sheet b.fresh sheet) = b.order.map b.sheet := by
      apply List.map_congr_left
      intro tag member
      exact Function.update_of_ne (Nat.ne_of_lt (inStep.below tag member)) _ _
    simp only [TaggedBook.append, List.map_append, others, inStep.sheets, List.map_singleton,
      Function.update_self]
  · rw [TaggedBook.append, inStep.active]
    rcases inStep.kept with inside | ⟨none, first⟩
    · rw [inStep.size] at inside
      rw [List.getElem?_append_left inside, List.getElem?_eq_getElem inside, Option.some_or]
    · rw [inStep.size, List.length_eq_zero_iff] at none
      rw [none, first]
      rfl
  · have new : b.fresh ∉ b.order := fun member => Nat.lt_irrefl _ (inStep.below _ member)
    exact List.nodup_append.mpr ⟨inStep.unique, List.nodup_singleton _, by
      rintro tag member _ (_ | ⟨_, ⟨⟩⟩) rfl
      exact new member⟩
  · intro tag member
    rcases List.mem_append.mp member with old | new
    · exact Nat.lt_succ_of_lt (inStep.below tag old)
    · rw [List.mem_singleton.mp new]
      exact Nat.lt_succ_self _

theorem add (inStep : wb.InStep b) (sheet : Sheet) :
    Agree ((wb.add sheet).map fun (index, wb) => (.index index, wb)) (b.add sheet) := by
  have named := inStep.isSome_indexOf? sheet.name
  unfold Workbook.add TaggedBook.add
  cases fits : nameFault? sheet.name with
  | some fault => exact .refused _
  | none =>
    simp only [named]
    by_cases taken : b.named sheet.name = true
    · rw [if_pos taken, if_pos taken]
      exact .refused _
    · rw [if_neg taken, if_neg taken, inStep.size]
      have free : wb.indexOf? sheet.name = none := by
        rw [← named] at taken
        exact Option.not_isSome_iff_eq_none.mp taken
      exact .done _ (inStep.append fits free)

theorem clone (inStep : wb.InStep b) (index : Nat) (newName : String) :
    Agree (wb.edit (.clone index newName)) (b.edit (.clone index newName)) := by
  simp only [Workbook.edit, Workbook.clone, TaggedBook.edit, TaggedBook.onTag, inStep.getElem?,
    inStep.size]
  cases b.order[index]? with
  | none => exact .refused _
  | some tag => exact inStep.add _

theorem active_eq_some_iff {index tag : Nat} (inStep : wb.InStep b)
    (found : b.order[index]? = some tag) : b.active = some tag ↔ wb.active = index := by
  rw [inStep.active, ← found]
  constructor
  · intro same
    exact ((List.getElem?_inj (List.getElem?_eq_some_iff.mp found).1 inStep.unique).mp same.symm).symm
  · rintro rfl
    rfl

theorem remove {index tag : Nat} (inStep : wb.InStep b) (found : b.order[index]? = some tag) :
    InStep
      { sheets := wb.sheets.eraseIdx index
        active := activeAfterRemoval wb.active index (wb.size - 1) }
      (b.drop tag) := by
  have inside : index < wb.size := inStep.size ▸ (List.getElem?_eq_some_iff.mp found).1
  have kept := inStep.kept.of_edited (.removed index inside)
  have active := inStep.active_eq_some_iff found
  obtain ⟨before, after, around, rfl⟩ := exists_around found
  have first : tag ∉ before := by
    have unique := inStep.unique
    rw [around, List.nodup_middle, List.nodup_cons] at unique
    exact fun member => unique.1 (List.mem_append_left after member)
  have left : b.order.erase tag = before ++ after := by
    rw [around, List.erase_append_right _ first, List.erase_cons_head]
  refine ⟨?_, ?_, kept, inStep.unique.erase tag, ?_⟩
  · rw [inStep.sheets, List.eraseIdx_map, around,
      List.eraseIdx_append_of_length_le (Nat.le_refl _), Nat.sub_self, List.eraseIdx_cons_zero,
      TaggedBook.drop, left]
  · have count : wb.size - 1 = (before ++ after).length := by
      rw [inStep.size, around]
      simp
    have activeInside : wb.active < (before ++ tag :: after).length := by
      rw [← around, ← inStep.size]
      rcases inStep.kept with inside | ⟨none, -⟩
      · exact inside
      · omega
    rw [count, TaggedBook.drop, left, getElem?_activeAfterRemoval activeInside, ← around]
    by_cases same : wb.active = before.length
    · rw [if_pos (active.mpr same), if_pos same, around, TaggedBook.heir?_middle first]
    · rw [if_neg (mt active.mp same), if_neg same, inStep.active]
  · intro other member
    exact inStep.below other (List.mem_of_mem_erase member)

theorem activate {index tag : Nat} (inStep : wb.InStep b) (found : b.order[index]? = some tag) :
    InStep { wb with active := index } { b with active := some tag } := by
  have inside : index < wb.size := inStep.size ▸ (List.getElem?_eq_some_iff.mp found).1
  exact ⟨inStep.sheets, found.symm, .inl inside, inStep.unique, inStep.below⟩

theorem activeSheet? (inStep : wb.InStep b) : wb.activeSheet? = b.active.map b.sheet := by
  rw [Workbook.activeSheet?, inStep.getElem?, inStep.active]

theorem write {tag : Nat} (inStep : wb.InStep b) (active : b.active = some tag)
    (address : CellAddress) (text : String) :
    InStep
      { wb with
        sheets := wb.sheets.set wb.active ((b.sheet tag).setCell address (.text text)) }
      (b.write tag address text) := by
  have found : b.order[wb.active]? = some tag := inStep.active ▸ active
  obtain ⟨inside, same⟩ := List.getElem?_eq_some_iff.mp found
  have written : wb.activeSheet? = some (b.sheet tag) := by
    rw [inStep.activeSheet?, active]
    rfl
  refine ⟨?_, inStep.active, inStep.kept.of_edited (.written _ address text written),
    inStep.unique, inStep.below⟩
  have place : b.order.idxOf tag = wb.active := by
    rw [← same]
    exact inStep.unique.idxOf_getElem wb.active inside
  rw [TaggedBook.write, inStep.unique.map_update, if_pos (List.mem_of_getElem? found), place,
    inStep.sheets]

theorem edit (inStep : wb.InStep b) (e : WorkbookEdit) : Agree (wb.edit e) (b.edit e) := by
  cases e with
  | add sheet => exact inStep.add sheet
  | clone index newName => exact inStep.clone index newName
  | remove index =>
    have sheet := inStep.getElem? index
    simp only [Workbook.edit, TaggedBook.edit, TaggedBook.onTag]
    cases found : b.order[index]? with
    | none =>
      rw [found, Option.map_none] at sheet
      simp only [Workbook.remove, sheet, inStep.size]
      exact .refused _
    | some tag =>
      rw [found, Option.map_some] at sheet
      rw [remove_of_getElem? sheet]
      exact .done _ (inStep.remove found)
  | activate index =>
    simp only [Workbook.edit, Workbook.activate, TaggedBook.edit, TaggedBook.onTag, inStep.size]
    cases found : b.order[index]? with
    | none =>
      rw [if_neg (Nat.not_lt.mpr (List.getElem?_eq_none_iff.mp found))]
      exact .refused _
    | some tag =>
      rw [if_pos (List.getElem?_eq_some_iff.mp found).1]
      exact .done _ (inStep.activate found)
  | setText address text =>
    simp only [Workbook.edit, Workbook.setText, TaggedBook.edit, inStep.activeSheet?]
    cases active : b.active with
    | none => exact .refused _
    | some tag => exact .done _ (inStep.write active address text)

theorem perform (inStep : wb.InStep b) (e : WorkbookEdit) :
    (wb.perform e).1 = (b.perform e).1 ∧ (wb.perform e).2.InStep (b.perform e).2 := by
  have agree := inStep.edit e
  rw [perform_eq_settle, TaggedBook.perform]
  cases outcome : wb.edit e with
  | error fault =>
    cases tagOutcome : b.edit e with
    | error tagFault =>
      rw [outcome, tagOutcome] at agree
      cases agree
      exact ⟨rfl, inStep⟩
    | ok result =>
      rw [outcome, tagOutcome] at agree
      cases agree
  | ok result =>
    cases tagOutcome : b.edit e with
    | error tagFault =>
      rw [outcome, tagOutcome] at agree
      cases agree
    | ok tagResult =>
      rw [outcome, tagOutcome] at agree
      cases agree with
      | done answer later => exact ⟨rfl, later⟩

theorem performAll (inStep : wb.InStep b) (edits : List WorkbookEdit) :
    wb.answers edits = b.answers edits ∧ (wb.performAll edits).InStep (b.performAll edits) := by
  induction edits generalizing wb b with
  | nil => exact ⟨rfl, inStep⟩
  | cons e more ih =>
    obtain ⟨answer, next⟩ := inStep.perform e
    obtain ⟨answers, last⟩ := ih next
    refine ⟨?_, last⟩
    rw [Workbook.answers, TaggedBook.answers, answer, answers]

theorem tagged (inRange : wb.active < wb.size) : wb.InStep wb.tagged := by
  refine ⟨?_, ?_, .inl inRange, List.nodup_range, fun tag => List.mem_range.mp⟩
  · apply List.ext_getElem?
    intro index
    simp only [Workbook.tagged, List.getElem?_map]
    by_cases inside : index < wb.size
    · rw [List.getElem?_range inside, Option.map_some, List.getElem?_eq_getElem inside,
        Option.getD_some]
    · have outside : wb.sheets.length ≤ index := Nat.not_lt.mp inside
      have untagged : (List.range wb.size).length ≤ index := by
        rwa [List.length_range]
      rw [List.getElem?_eq_none outside, List.getElem?_eq_none untagged]
      rfl
  · exact (List.getElem?_range inRange).symm

end InStep

/-- Sheets that are edited by their indices go the same ways as sheets that are known by tags: every
edit gets the same answer, and the workbook it leaves behind has the sheets of the tags, in their
order, and the sheet of the active tag at the active index. -/
theorem performAll_inStep (wb : Workbook) (inRange : wb.active < wb.size)
    (edits : List WorkbookEdit) :
    wb.InStep wb.tagged ∧
      wb.answers edits = wb.tagged.answers edits ∧
      (wb.performAll edits).InStep (wb.tagged.performAll edits) ∧
      ((wb.performAll edits).sheets ≠ [] →
        (wb.performAll edits).active < (wb.performAll edits).size) := by
  have start := InStep.tagged inRange
  obtain ⟨answers, last⟩ := start.performAll edits
  refine ⟨start, answers, last, ?_⟩
  intro left
  rcases last.kept with inside | ⟨none, -⟩
  · exact inside
  · exact absurd (List.length_eq_zero_iff.mp none) left

theorem performAll_inStep_of_removals :
    let wb : Workbook :=
      { sheets := [{ name := "Cover" }, { name := "Detail" }, { name := "Notes" }], active := 2 }
    let edits : List WorkbookEdit :=
      [.remove 0, .clone 0 "Copy", .activate 2, .remove 2, .setText ⟨0, 0⟩ "x", .remove 7]
    let notes : Sheet := { name := "Notes", cells := .ofList [(⟨0, 0⟩, .text "x")] }
    wb.active < wb.size ∧
      (wb.performAll edits).sheets = [{ name := "Detail" }, notes] ∧
      (wb.performAll edits).activeSheet? = some notes := by
  intro wb edits notes
  have inRange : wb.active < wb.size := by decide
  obtain ⟨-, -, last, -⟩ := performAll_inStep wb inRange edits
  refine ⟨inRange, ?_, ?_⟩
  · rw [last.sheets]
    decide +kernel
  · rw [last.activeSheet?]
    decide +kernel

end Workbook

end ReportSheets
