import Mathlib.Data.List.TakeWhile
import ReportSheets.Text.Blank

namespace ReportSheets.Text

def Blank (text : List Char) : Prop := ∀ c ∈ text, isBlank c = true

def Padded (core text : List Char) : Prop :=
  ∃ left right, Blank left ∧ Blank right ∧ text = left ++ core ++ right

def Trimmed (text : List Char) : Prop :=
  (∀ c ∈ text.head?, isBlank c = false) ∧ ∀ c ∈ text.getLast?, isBlank c = false

-- The tests run over the characters of the text; the instance for all characters would be found first.
instance (text : List Char) : Decidable (Blank text) :=
  List.decidableBAll (fun c => isBlank c = true) text

instance (text : List Char) : Decidable (Trimmed text) :=
  @instDecidableAnd _ _ (Option.decidableForallMem text.head?)
    (Option.decidableForallMem text.getLast?)

variable {core text left right : List Char}

theorem isBlank_of_visible {c : Char} (lower : 0x20 < c.toNat) (upper : c.toNat < 0x7F) :
    isBlank c = false := by
  simp only [isBlank, Bool.or_eq_false_iff, Bool.and_eq_false_iff, decide_eq_false_iff_not,
    beq_eq_false_iff_ne]
  omega

theorem blank_nil : Blank [] := by
  intro c member
  cases member

theorem Blank.append (before : Blank left) (after : Blank right) : Blank (left ++ right) := by
  intro c member
  rcases List.mem_append.mp member with inLeft | inRight
  · exact before c inLeft
  · exact after c inRight

theorem padded_self (text : List Char) : Padded text text :=
  ⟨[], [], blank_nil, blank_nil, (List.append_nil text).symm⟩

theorem Padded.append_right (padded : Padded core text) (after : Blank right) :
    Padded core (text ++ right) := by
  obtain ⟨l, r, before, behind, rfl⟩ := padded
  exact ⟨l, r ++ right, before, behind.append after, by simp⟩

theorem Padded.append_left (padded : Padded core text) (before : Blank left) :
    Padded core (left ++ text) := by
  obtain ⟨l, r, ahead, after, rfl⟩ := padded
  exact ⟨left ++ l, r, before.append ahead, after, by simp⟩

theorem trimStart_blank_append (before : Blank left) (text : List Char) :
    trimStart (left ++ text) = trimStart text := List.dropWhile_append_of_pos before

theorem trimEnd_append_blank (text : List Char) (after : Blank right) :
    trimEnd (text ++ right) = trimEnd text := by
  have reversed : ∀ c ∈ right.reverse, isBlank c = true := by
    intro c member
    exact after c (List.mem_reverse.mp member)
  rw [trimEnd, List.reverse_append, List.dropWhile_append_of_pos reversed, trimEnd]

theorem trimStart_of_head (head : ∀ c ∈ text.head?, isBlank c = false) : trimStart text = text := by
  cases text with
  | nil => rfl
  | cons c rest => rw [trimStart, List.dropWhile_cons_of_neg (by simp [head c rfl])]

theorem trimEnd_of_last (last : ∀ c ∈ text.getLast?, isBlank c = false) : trimEnd text = text := by
  have head : ∀ c ∈ text.reverse.head?, isBlank c = false := by
    intro c member
    rw [List.head?_reverse] at member
    exact last c member
  have kept := trimStart_of_head head
  rw [trimStart] at kept
  rw [trimEnd, kept, List.reverse_reverse]

theorem trim_eq_of_padded (padded : Padded core text) (trimmed : Trimmed core) :
    trim text = core := by
  obtain ⟨left, right, before, after, rfl⟩ := padded
  rw [trim, List.append_assoc, trimStart_blank_append before]
  cases core with
  | nil =>
    have none : trimStart right = [] := List.dropWhile_eq_nil_iff.mpr after
    rw [List.nil_append, none]
    rfl
  | cons c rest =>
    have head : ∀ d ∈ (c :: rest ++ right).head?, isBlank d = false := trimmed.1
    rw [trimStart_of_head head, trimEnd_append_blank _ after, trimEnd_of_last trimmed.2]

theorem trimEnd_append_blanks (text : List Char) :
    ∃ right, Blank right ∧ text = trimEnd text ++ right := by
  refine ⟨(text.reverse.takeWhile isBlank).reverse, ?_, ?_⟩
  · intro c member
    exact List.mem_takeWhile_imp (List.mem_reverse.mp member)
  · rw [trimEnd, ← List.reverse_append, List.takeWhile_append_dropWhile, List.reverse_reverse]

theorem padded_trim (text : List Char) : Padded (trim text) text := by
  obtain ⟨right, after, kept⟩ := trimEnd_append_blanks (trimStart text)
  refine ⟨text.takeWhile isBlank, right, fun c => List.mem_takeWhile_imp, after, ?_⟩
  rw [trim, List.append_assoc, ← kept, trimStart, List.takeWhile_append_dropWhile]

theorem head_dropWhile_blank (text : List Char) :
    ∀ c ∈ (text.dropWhile isBlank).head?, isBlank c = false := by
  intro c member
  have first := List.head?_dropWhile_not isBlank text
  rw [Option.mem_def.mp member] at first
  exact first

theorem trimmed_trim (text : List Char) : Trimmed (trim text) := by
  constructor
  · intro c member
    obtain ⟨right, -, kept⟩ := trimEnd_append_blanks (trimStart text)
    have first : c ∈ (trimStart text).head? := by
      rw [trim, Option.mem_def] at member
      rw [kept, List.head?_append, member]
      rfl
    exact head_dropWhile_blank text c first
  · intro c member
    rw [trim, trimEnd, List.getLast?_reverse] at member
    exact head_dropWhile_blank _ c member

theorem trim_eq_nil_iff : trim text = [] ↔ Blank text := by
  constructor
  · intro empty
    obtain ⟨left, right, before, after, whole⟩ := padded_trim text
    rw [empty, List.append_nil] at whole
    rw [whole]
    exact before.append after
  · intro blank
    have padded : Padded [] text := ⟨text, [], blank, blank_nil, by simp⟩
    exact trim_eq_of_padded padded (by simp [Trimmed])

end ReportSheets.Text
