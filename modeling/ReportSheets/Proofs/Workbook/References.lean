import Mathlib.Data.List.InsertIdx
import ReportSheets.Proofs.Workbook.Names

namespace ReportSheets

namespace WorkbookEdit

/-- Where the sheet at `place` stands after an edit, and nowhere when the edit removes it. -/
def placeAfter? (place : Nat) : WorkbookEdit → Option Nat
  | .remove index =>
    if index < place then some (place - 1) else if index = place then none else some place
  | _ => some place

/-- The text that an edit writes does not show in what `f` gives of a sheet. -/
def Spares {α : Type} (f : Sheet → α) : WorkbookEdit → Prop
  | .setText address text => ∀ sheet : Sheet, f (sheet.setCell address (.text text)) = f sheet
  | _ => True

theorem spares_name (e : WorkbookEdit) : e.Spares Sheet.name := by
  cases e with
  | setText => exact fun _ => rfl
  | _ => trivial

theorem spares_of_ne_setText {e : WorkbookEdit} {α : Type} (f : Sheet → α)
    (writes : ∀ address text, e ≠ .setText address text) : e.Spares f := by
  cases e with
  | setText address text => exact absurd rfl (writes address text)
  | _ => trivial

end WorkbookEdit

namespace Workbook

def placeAfter? (place : Nat) (edits : List WorkbookEdit) : Option Nat :=
  edits.foldlM (fun place e => e.placeAfter? place) place

variable {wb after : Workbook} {name : String} {place index : Nat}

section

variable {α : Type} {f : Sheet → α} {e : WorkbookEdit}

theorem map_sheets_perform_remove (wb : Workbook) (index : Nat) :
    (wb.perform (.remove index)).2.sheets.map f = (wb.sheets.map f).eraseIdx index := by
  rw [perform_eq_settle, edit]
  cases found : wb.sheets[index]? with
  | none =>
    have outside : (wb.sheets.map f).length ≤ index := by
      rw [List.length_map]
      exact List.getElem?_eq_none_iff.mp found
    have refused : wb.remove index = .error (.sheetIndex index wb.size) := by
      simp only [remove, found]
    rw [refused, List.eraseIdx_of_length_le outside]
    rfl
  | some sheet =>
    rw [remove_of_getElem? found, List.eraseIdx_map]
    rfl

theorem map_sheets_prefix_of_edit {answer : EditAnswer} (spares : e.Spares f)
    (removes : ∀ index, e ≠ .remove index) (done : wb.edit e = .ok (answer, after)) :
    wb.sheets.map f <+: after.sheets.map f := by
  cases e with
  | add sheet =>
    obtain ⟨⟨copy, next⟩, added, same⟩ := exists_of_map_ok done
    obtain ⟨-, -, -, rfl⟩ := add_eq_ok added
    cases same
    exact (List.prefix_append _ _).map f
  | clone source newName =>
    obtain ⟨⟨copy, next⟩, cloned, same⟩ := exists_of_map_ok done
    obtain ⟨sheet, -, added⟩ := clone_eq_ok cloned
    obtain ⟨-, -, -, rfl⟩ := add_eq_ok added
    cases same
    exact (List.prefix_append _ _).map f
  | remove index => exact absurd rfl (removes index)
  | activate index =>
    obtain ⟨next, activated, same⟩ := exists_of_map_ok done
    obtain ⟨-, rfl⟩ := activate_eq_ok activated
    cases same
    exact List.prefix_rfl
  | setText address text =>
    obtain ⟨next, written, same⟩ := exists_of_map_ok done
    obtain ⟨sheet, found, rfl⟩ := setText_eq_ok written
    cases same
    refine ⟨[], ?_⟩
    rw [List.append_nil, map_written found (spares sheet)]

theorem map_sheets_prefix_perform (spares : e.Spares f) (removes : ∀ index, e ≠ .remove index) :
    wb.sheets.map f <+: (wb.perform e).2.sheets.map f := by
  rw [perform_eq_settle]
  cases outcome : wb.edit e with
  | error fault => exact List.prefix_rfl
  | ok result => exact map_sheets_prefix_of_edit spares removes outcome

theorem getElem?_perform {next : Nat} {shown : α} (spares : e.Spares f)
    (there : (wb.sheets.map f)[place]? = some shown) (stays : e.placeAfter? place = some next) :
    ((wb.perform e).2.sheets.map f)[next]? = some shown := by
  by_cases removes : ∃ index, e = .remove index
  · obtain ⟨index, rfl⟩ := removes
    rw [map_sheets_perform_remove]
    simp only [WorkbookEdit.placeAfter?] at stays
    -- sheets behind the gap move up by one, those ahead of it stay
    rcases Nat.lt_trichotomy index place with behind | rfl | ahead
    · rw [if_pos behind, Option.some.injEq] at stays
      have back : place - 1 + 1 = place := by omega
      rw [← stays, List.getElem?_eraseIdx_of_ge (by omega), back]
      exact there
    · rw [if_neg (Nat.lt_irrefl index), if_pos rfl] at stays
      cases stays
    · rw [if_neg (by omega), if_neg (by omega), Option.some.injEq] at stays
      rw [← stays, List.getElem?_eraseIdx_of_lt ahead]
      exact there
  · have keeps : ∀ index, e ≠ .remove index := fun index same => removes ⟨index, same⟩
    have same : next = place := by
      cases e with
      | remove index => exact absurd rfl (keeps index)
      | _ =>
        cases stays
        rfl
    obtain ⟨more, longer⟩ : wb.sheets.map f <+: (wb.perform e).2.sheets.map f :=
      map_sheets_prefix_perform spares keeps
    have inside : place < (wb.sheets.map f).length := (List.getElem?_eq_some_iff.mp there).1
    rw [same, ← longer, List.getElem?_append_left inside]
    exact there

/-- A sheet stays the same wherever the edits of the others move it. -/
theorem getElem?_performAll {edits : List WorkbookEdit} {next : Nat} {shown : α}
    (spares : ∀ e ∈ edits, e.Spares f) (there : (wb.sheets.map f)[place]? = some shown)
    (stays : placeAfter? place edits = some next) :
    ((wb.performAll edits).sheets.map f)[next]? = some shown := by
  induction edits generalizing wb place with
  | nil =>
    cases stays
    exact there
  | cons e more ih =>
    obtain ⟨first, others⟩ := List.forall_mem_cons.mp spares
    rw [placeAfter?, List.foldlM_cons] at stays
    obtain ⟨between, moved, stays⟩ := Option.bind_eq_some_iff.mp stays
    exact ih others (getElem?_perform first there moved) stays

end

theorem sheet_performAll {edits : List WorkbookEdit} {sheet : Sheet}
    (writes : ∀ e ∈ edits, ∀ address text, e ≠ .setText address text)
    (there : wb.sheets[place]? = some sheet) (stays : placeAfter? place edits = some index) :
    (wb.performAll edits).sheets[index]? = some sheet := by
  have spares : ∀ e ∈ edits, e.Spares id := by
    intro e among
    exact WorkbookEdit.spares_of_ne_setText id (writes e among)
  rw [← List.map_id wb.sheets] at there
  rw [← List.map_id (wb.performAll edits).sheets]
  exact getElem?_performAll spares there stays

theorem copy_of_clone {source copy : Nat}
    (cloned : wb.perform (.clone source name) = (.ok (.index copy), after)) :
    ∃ sheet, wb.sheets[source]? = some sheet ∧
      after.sheets[copy]? = some { sheet with name := name } := by
  rw [perform_eq_settle] at cloned
  cases outcome : wb.edit (.clone source name) with
  | error fault =>
    rw [outcome] at cloned
    cases cloned
  | ok result =>
    obtain ⟨⟨place, next⟩, made, same⟩ := exists_of_map_ok outcome
    obtain ⟨sheet, found, added⟩ := clone_eq_ok made
    obtain ⟨-, -, rfl, rfl⟩ := add_eq_ok added
    rw [outcome, ← same] at cloned
    cases cloned
    exact ⟨sheet, found, List.getElem?_concat_length⟩

theorem resolve_name_eq_ok_iff (apart : (wb.names.map nameKey).Nodup) :
    wb.resolve (.name name) = .ok index ↔
      ∃ other, wb.names[index]? = some other ∧ sameName other name = true := by
  rw [← indexOf?_eq_some_iff apart]
  cases found : wb.indexOf? name <;> simp [resolve, found]

theorem resolve_number_eq_ok_iff {n : Int} :
    wb.resolve (.number n) = .ok index ↔ n = index ∧ index < wb.size := by
  by_cases inside : 0 ≤ n ∧ n < wb.size
  · simp only [resolve, if_pos inside, Except.ok.injEq]
    omega
  · simp only [resolve, if_neg inside, reduceCtorEq, false_iff]
    omega

theorem apart_performAll (apart : (wb.names.map nameKey).Nodup) (edits : List WorkbookEdit) :
    ((wb.performAll edits).names.map nameKey).Nodup :=
  performAll_of_edited (P := fun wb => (wb.names.map nameKey).Nodup)
    (fun _ _ => apart_of_edited) apart edits

theorem resolve_performAll {edits : List WorkbookEdit} {variant : String}
    (apart : (wb.names.map nameKey).Nodup) (called : wb.names[place]? = some name)
    (same : sameName name variant = true) (stays : placeAfter? place edits = some index) :
    (wb.performAll edits).resolve (.name variant) = .ok index := by
  have named : (wb.performAll edits).names[index]? = some name :=
    getElem?_performAll (fun e _ => e.spares_name) called stays
  exact (resolve_name_eq_ok_iff (apart_performAll apart edits)).mpr ⟨name, named, same⟩

/-- Whatever edits have been made, a name means the one sheet that has it, regardless of the case of
ASCII letters, and a number the sheet at that place. A copy is found by its new name wherever later
edits move it, until it is removed, and is as it was made unless text is written. -/
theorem resolve_after_edits (wb : Workbook)
    (apart : wb.names.Pairwise fun a b => sameName a b = false) (edits : List WorkbookEdit) :
    (wb.performAll edits).names.Pairwise (fun a b => sameName a b = false) ∧
      (∀ name, (∃ index, (wb.performAll edits).resolve (.name name) = .ok index) ↔
        ∃ other ∈ (wb.performAll edits).names, sameName other name = true) ∧
      (∀ name index, (wb.performAll edits).resolve (.name name) = .ok index →
        ∀ place, (∃ other, (wb.performAll edits).names[place]? = some other ∧
          sameName other name = true) ↔ place = index) ∧
      (∀ n index, (wb.performAll edits).resolve (.number n) = .ok index ↔
        n = index ∧ index < (wb.performAll edits).size) ∧
      (∀ source newName copy after,
        (wb.performAll edits).perform (.clone source newName) = (.ok (.index copy), after) →
        ∃ sheet, (wb.performAll edits).sheets[source]? = some sheet ∧
          after.sheets[copy]? = some { sheet with name := newName } ∧
          ∀ later place, placeAfter? copy later = some place →
            (∀ variant, sameName newName variant = true →
              (after.performAll later).resolve (.name variant) = .ok place) ∧
            ((∀ e ∈ later, ∀ address text, e ≠ .setText address text) →
              (after.performAll later).sheets[place]? = after.sheets[copy]?)) := by
  have now := apart_performAll (nodup_nameKey_iff.mpr apart) edits
  refine ⟨nodup_nameKey_iff.mp now, ?_, ?_, fun _ _ => resolve_number_eq_ok_iff, ?_⟩
  · intro name
    constructor
    · rintro ⟨index, resolved⟩
      obtain ⟨other, named, same⟩ := (resolve_name_eq_ok_iff now).mp resolved
      exact ⟨other, List.mem_of_getElem? named, same⟩
    · rintro ⟨other, among, same⟩
      obtain ⟨index, named⟩ := List.mem_iff_getElem?.mp among
      exact ⟨index, (resolve_name_eq_ok_iff now).mpr ⟨other, named, same⟩⟩
  · intro name index resolved place
    rw [← resolve_name_eq_ok_iff now, resolved, Except.ok.injEq, eq_comm]
  · intro source newName copy after cloned
    obtain ⟨sheet, found, copied⟩ := copy_of_clone cloned
    have laterApart : (after.names.map nameKey).Nodup := by
      have made := apart_performAll now [.clone source newName]
      rwa [performAll, List.foldl_cons, cloned] at made
    have called : after.names[copy]? = some newName := by
      rw [names, List.getElem?_map, copied, Option.map_some]
    refine ⟨sheet, found, copied, ?_⟩
    intro later place stays
    constructor
    · intro variant same
      exact resolve_performAll laterApart called same stays
    · intro writes
      rw [copied]
      exact sheet_performAll writes copied stays

theorem resolve_after_edits_of_draft :
    let wb : Workbook := { sheets := [{ name := "Cover" }, { name := "Notes" }] }
    let edits : List WorkbookEdit := [.add { name := "Total" }, .add { name := "COVER" }, .remove 1]
    let now : Workbook := { sheets := [{ name := "Cover" }, { name := "Total" }] }
    let later : List WorkbookEdit := [.add { name := "DRAFT" }, .remove 0, .clone 0 "Cover", .remove 7]
    (wb.names.Pairwise fun a b => sameName a b = false) ∧
      wb.performAll edits = now ∧
      now.resolve (.name "tOTAL") = .ok 1 ∧
      (∀ n index, now.resolve (.number n) = .ok index ↔ n = index ∧ index < 2) ∧
      ∃ after, now.perform (.clone 0 "Draft") = (.ok (.index 2), after) ∧
        placeAfter? 2 later = some 1 ∧
        sameName "Draft" "dRAFT" = true ∧
        (after.performAll later).resolve (.name "dRAFT") = .ok 1 := by
  intro wb edits now later
  have apart : wb.names.Pairwise fun a b => sameName a b = false := by decide
  have reached : wb.performAll edits = now := by decide
  have laws := resolve_after_edits wb apart edits
  rw [reached] at laws
  obtain ⟨-, found, only, numbered, copies⟩ := laws
  obtain ⟨index, resolved⟩ := (found "tOTAL").mpr ⟨"Total", by decide, by decide⟩
  have second : 1 = index := (only "tOTAL" index resolved 1).mp ⟨"Total", rfl, by decide⟩
  refine ⟨apart, reached, second ▸ resolved, numbered, _, rfl, by decide, by decide, ?_⟩
  obtain ⟨-, -, -, after⟩ := copies 0 "Draft" 2 _ rfl
  exact (after later 1 (by decide)).1 "dRAFT" (by decide)

end Workbook

end ReportSheets
