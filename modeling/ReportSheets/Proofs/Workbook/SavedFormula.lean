import ReportSheets.Proofs.Xml.Numbered
import ReportSheets.Workbook.SavedFormula

namespace ReportSheets.SavedFormula

open Xml (isUnwritable writeNumbered)

/-- No name is given a mark, and none is begun where quoted text begins; `word` is the name begun. -/
def Spelled (quoted : Bool) (word : List Char) : List Char → Prop
  | [] => True
  | c :: rest =>
    let quoted := if c = '"' then !quoted else quoted
    if quoted then word = [] ∧ Spelled true [] rest
    else if isNameChar c then Spelled false (word ++ [c]) rest
    else (c = '(' → markOf word = []) ∧ Spelled false [] rest

structure Kept (formula : List Char) : Prop where
  unclosed : formula.getLast? ≠ some '\x7d'
  writable : ∀ c ∈ formula, isUnwritable c = false
  spelled : holds laterMark.toList formula = true ∨ Spelled false [] formula

variable {c : Char} {quoted : Bool} {word text tail rest : List Char}

theorem markOf_eq_cons (marked : markOf word ≠ []) : ∃ more, markOf word = '_' :: more := by
  unfold markOf at marked ⊢
  dsimp only at marked ⊢
  split
  · exact ⟨_, rfl⟩
  · split
    · exact ⟨_, rfl⟩
    · rename_i early earlier
      exact absurd (by rw [if_neg early, if_neg earlier]) marked

theorem markOf_nil : markOf [] = [] := by
  decide

theorem ne_of_not_isNameChar (name : ∀ c ∈ word, isNameChar c = true) (begun : word ≠ [])
    (other : isNameChar c = false) : c :: tail ≠ word ++ rest := by
  obtain ⟨first, more, rfl⟩ := List.exists_cons_of_ne_nil begun
  intro same
  rw [List.cons_append] at same
  rw [(List.cons.inj same).1, name first List.mem_cons_self] at other
  cases other

theorem withMarks_append_eq_iff (name : ∀ c ∈ word, isNameChar c = true)
    (outside : quoted = true → word = []) :
    withMarks quoted word text ++ tail = word ++ (text ++ rest) ↔
      Spelled quoted word text ∧ tail = rest := by
  -- The scanner holds the name begun back; what it puts in front of the name cannot begin one.
  induction text generalizing quoted word with
  | nil => simp [withMarks, Spelled]
  | cons c text ih =>
    rw [withMarks, Spelled]
    generalize isNext : (if c = '"' then !quoted else quoted) = next
    cases next with
    | true =>
      rw [if_pos rfl, if_pos rfl]
      by_cases begun : word = []
      · subst begun
        simpa using @ih true [] (by simp) (by simp)
      · have opens : c = '"' := by
          by_contra inside
          rw [if_neg inside] at isNext
          exact begun (outside isNext)
        have apart : isNameChar c = false := by
          rw [opens]
          decide
        simp only [begun, false_and, iff_false]
        exact ne_of_not_isNameChar name begun apart
    | false =>
      rw [if_neg Bool.false_ne_true, if_neg Bool.false_ne_true]
      by_cases part : isNameChar c = true
      · have longer : ∀ d ∈ word ++ [c], isNameChar d = true := by
          simpa [or_imp, forall_and, part] using name
        rw [if_pos part, if_pos part]
        simpa using @ih false (word ++ [c]) longer (by simp)
      · rw [if_neg part, if_neg part]
        by_cases unmarked : c = '(' → markOf word = []
        · have mark : (if c = '(' then markOf word else []) = [] := by
            split
            · exact unmarked ‹_›
            · rfl
          rw [mark, and_iff_right unmarked]
          simpa using @ih false [] (by simp) (by simp)
        · obtain ⟨rfl, marked⟩ := Classical.not_imp.mp unmarked
          obtain ⟨more, begins⟩ := markOf_eq_cons marked
          have begun : word ≠ [] := by
            rintro rfl
            exact marked markOf_nil
          refine iff_of_false ?_ fun spelled => unmarked spelled.1.1
          rw [if_pos rfl, begins]
          exact ne_of_not_isNameChar name begun (by decide : isNameChar '_' = false)

/-- Marks and doubled texts are put in front of what is there, and none of them begins so. -/
theorem withMarks_ne_equals_cons (name : ∀ c ∈ word, isNameChar c = true) :
    withMarks false word text ≠ '=' :: (word ++ (text ++ rest)) := by
  induction text generalizing word with
  | nil =>
    intro same
    have longer := congrArg List.length same
    simp only [withMarks, List.length_cons, List.length_append] at longer
    omega
  | cons c text ih =>
    rw [withMarks]
    by_cases opens : c = '"'
    · subst opens
      simp
    · rw [if_neg opens, if_neg Bool.false_ne_true]
      by_cases part : isNameChar c = true
      · have longer : ∀ d ∈ word ++ [c], isNameChar d = true := by
          simpa [or_imp, forall_and, part] using name
        rw [if_pos part]
        simpa using ih longer
      · rw [if_neg part]
        intro same
        by_cases begun : word = []
        · subst begun
          simp only [markOf_nil, ite_self, List.nil_append, List.cons_append,
            List.cons.injEq] at same
          obtain ⟨rfl, same⟩ := same
          exact @ih [] (by simp) same
        by_cases unmarked : (if c = '(' then markOf word else []) = []
        · rw [unmarked] at same
          exact ne_of_not_isNameChar name begun (by decide : isNameChar '=' = false) same.symm
        · split at unmarked
          · obtain ⟨more, begins⟩ := markOf_eq_cons unmarked
            rw [if_pos ‹_›, begins] at same
            cases same
          · exact absurd rfl unmarked

def marked (text : List Char) : List Char :=
  if holds laterMark.toList text then text else withMarks false [] text

theorem toList_write (formula : String) :
    (write formula).toList = writeNumbered (marked (withoutBrace formula.toList)) :=
  String.toList_ofList

theorem withoutBrace_append (text : List Char) :
    ∃ brace, text = withoutBrace text ++ brace ∧ (brace = [] ↔ text.getLast? ≠ some '\x7d') := by
  by_cases closed : text.getLast? = some '\x7d'
  · refine ⟨['\x7d'], ?_, by simp [closed]⟩
    rw [withoutBrace, if_pos closed]
    exact (List.dropLast_append_getLast? _ closed).symm
  · exact ⟨[], by simp [withoutBrace, closed], by simp [closed]⟩

theorem mem_markOf (member : c ∈ markOf word) : c ∈ rangeMark.toList := by
  unfold markOf at member
  dsimp only at member
  split at member
  · exact member
  · split at member
    · rw [rangeMark, String.toList_append]
      exact List.mem_append_left _ member
    · cases member

theorem writable_rangeMark : ∀ c ∈ rangeMark.toList, isUnwritable c = false := by
  simp [rangeMark, laterMark, isUnwritable]

theorem mem_withMarks (member : c ∈ withMarks quoted word text) :
    c ∈ word ∨ c ∈ text ∨ c ∈ rangeMark.toList := by
  induction text generalizing quoted word with
  | nil => exact .inl member
  | cons d text ih =>
    -- Each call of the scanner goes on with the name begun, this character after it, or nothing.
    have onward : ∀ {quoted name}, (∀ e ∈ name, e ∈ word ∨ e = d) →
        c ∈ withMarks quoted name text → c ∈ word ∨ c ∈ d :: text ∨ c ∈ rangeMark.toList := by
      intro quoted name known member
      rcases ih member with before | after | mark
      · rcases known c before with before | rfl
        · exact .inl before
        · exact .inr (.inl List.mem_cons_self)
      · exact .inr (.inl (List.mem_cons_of_mem d after))
      · exact .inr (.inr mark)
    rw [withMarks] at member
    generalize (if d = '"' then !quoted else quoted) = next at member
    cases next with
    | true =>
      rw [if_pos rfl] at member
      rcases List.mem_cons.mp member with rfl | later
      · exact .inr (.inl List.mem_cons_self)
      · refine onward ?_ later
        split <;> simp
    | false =>
      rw [if_neg Bool.false_ne_true] at member
      split at member
      · exact onward (by simp) member
      · rcases List.mem_append.mp member with before | after
        · rcases List.mem_append.mp before with mark | name
          · split at mark
            · exact .inr (.inr (mem_markOf mark))
            · cases mark
          · exact .inl name
        · rcases List.mem_cons.mp after with rfl | later
          · exact .inr (.inl List.mem_cons_self)
          · exact onward (by simp) later

theorem mem_marked (member : c ∈ marked text) : c ∈ text ∨ c ∈ rangeMark.toList := by
  unfold marked at member
  split at member
  · exact .inl member
  · simpa using mem_withMarks member

/-- Where a formula stands in a file behind a text or alone, nothing in it is written by number. -/
theorem marked_of_toList_write {formula : String} (lead : List Char)
    (stands : (write formula).toList = lead ++ formula.toList) :
    (∀ c ∈ formula.toList, isUnwritable c = false) ∧
      marked (withoutBrace formula.toList) = lead ++ formula.toList := by
  rw [toList_write] at stands
  have writable : ∀ c ∈ formula.toList, isUnwritable c = false := by
    intro c member
    refine Xml.writable_writeNumbered (marked (withoutBrace formula.toList)) c ?_
    rw [stands]
    exact List.mem_append_right lead member
  refine ⟨writable, ?_⟩
  obtain ⟨brace, whole, -⟩ := withoutBrace_append formula.toList
  rw [← stands, Xml.writeNumbered_of_writable]
  intro c member
  rcases mem_marked member with inside | mark
  · exact writable c (whole ▸ List.mem_append_left brace inside)
  · exact writable_rangeMark c mark

/-- The formulas that a file keeps, exactly. -/
theorem write_eq_self_iff (formula : String) : write formula = formula ↔ Kept formula.toList := by
  obtain ⟨brace, whole, unclosed⟩ := withoutBrace_append formula.toList
  constructor
  · intro stands
    obtain ⟨writable, same⟩ := marked_of_toList_write [] (congrArg String.toList stands)
    have bare : brace = [] ∧
        (holds laterMark.toList (withoutBrace formula.toList) = true ∨
          Spelled false [] (withoutBrace formula.toList)) := by
      rw [List.nil_append, marked] at same
      split at same
      · rename_i later
        exact ⟨List.self_eq_append_right.mp (same.trans whole), .inl later⟩
      · have apart : withMarks false [] (withoutBrace formula.toList) ++ [] =
            [] ++ (withoutBrace formula.toList ++ brace) := by
          rw [List.append_nil, List.nil_append, ← whole, same]
        obtain ⟨spelled, nothing⟩ := (withMarks_append_eq_iff (by simp) (by simp)).mp apart
        exact ⟨nothing.symm, .inr spelled⟩
    obtain ⟨rfl, spelled⟩ := bare
    rw [List.append_nil] at whole
    rw [← whole] at spelled
    exact ⟨unclosed.mp rfl, writable, spelled⟩
  · intro kept
    have bare := unclosed.mpr kept.unclosed
    rw [bare, List.append_nil] at whole
    have same : marked formula.toList = formula.toList := by
      unfold marked
      split
      · rfl
      · rename_i early
        have spelled := kept.spelled.resolve_left early
        have same : withMarks false [] formula.toList ++ [] = [] ++ (formula.toList ++ []) :=
          (withMarks_append_eq_iff (by simp) (by simp)).mpr ⟨spelled, rfl⟩
        simpa using same
    refine String.toList_injective ?_
    rw [toList_write, ← whole, same, Xml.writeNumbered_of_writable kept.writable]

theorem write_ne_equals_cons (formula : String) :
    (write formula).toList ≠ '=' :: formula.toList := by
  intro stands
  obtain ⟨brace, whole, -⟩ := withoutBrace_append formula.toList
  obtain ⟨-, same⟩ := marked_of_toList_write ['='] stands
  rw [List.singleton_append, marked] at same
  split at same
  · have longer := congrArg List.length (same.trans (congrArg _ whole))
    simp only [List.length_cons, List.length_append] at longer
    omega
  · have apart : withMarks false [] (withoutBrace formula.toList) =
        '=' :: ([] ++ (withoutBrace formula.toList ++ brace)) := same.trans (congrArg _ whole)
    exact withMarks_ne_equals_cons (by simp) apart

end ReportSheets.SavedFormula
