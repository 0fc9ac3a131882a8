import ReportSheets.Form.Field
import ReportSheets.Proofs.Formula.Writings

namespace ReportSheets

open Text

namespace Expr

inductive Mentions (name : String) : Expr → Prop
  | literal : Mentions name (.literal name)
  | argument {callee : String} {args : List Expr} {arg : Expr} (among : arg ∈ args)
      (mentions : Mentions name arg) : Mentions name (.call callee args)

variable {name field : String} {e : Expr} {piece inner shown : List Char}
  {pieces : List (List Char)}

mutual

/-- Only the literals that are the name of the field look at the row's value. -/
theorem evaluate_of_unmentioned (value other : String) :
    ∀ {e : Expr}, ¬ e.Mentions field → evaluate ⟨field, value⟩ e = evaluate ⟨field, other⟩ e
  | .literal text, unmentioned => by
    have different : text ≠ field := by
      rintro rfl
      exact unmentioned .literal
    simp only [evaluate, Binding.literal, if_neg different]
  | .call callee args, unmentioned => by
    have each := evaluateAll_of_unmentioned value other fun arg among mentions =>
      unmentioned (.argument among mentions)
    rw [evaluate, evaluate, each]

theorem evaluateAll_of_unmentioned (value other : String) :
    ∀ {args : List Expr}, (∀ arg ∈ args, ¬ arg.Mentions field) →
      evaluateAll ⟨field, value⟩ args = evaluateAll ⟨field, other⟩ args
  | [], _ => rfl
  | arg :: args, unmentioned => by
    have first := evaluate_of_unmentioned value other (unmentioned arg List.mem_cons_self)
    have later := evaluateAll_of_unmentioned value other fun next among =>
      unmentioned next (List.mem_cons_of_mem arg among)
    rw [evaluateAll, evaluateAll, first, later]

end

theorem length_le_joined (member : piece ∈ pieces) : piece.length ≤ (joined pieces).length := by
  induction pieces with
  | nil => cases member
  | cons first more ih =>
    cases more with
    | nil => rw [List.mem_singleton.mp member, joined, List.flatMap_nil, List.append_nil]
    | cons second more =>
      rw [joined_cons_cons, List.length_append, List.length_cons]
      rcases List.mem_cons.mp member with rfl | later
      · omega
      · have part := ih later
        omega

theorem Divided.length_le (divided : Divided pieces inner) (member : piece ∈ pieces) :
    piece.length ≤ inner.length := by
  rcases divided with ⟨rfl, -⟩ | ⟨-, rfl⟩
  · cases member
  · exact length_le_joined member

/-- Beside an argument the call's name and its parentheses have to stand. -/
theorem Prints.exists_shorter {args : List Expr} {arg : Expr}
    (prints : (Expr.call name args).Prints shown) (among : arg ∈ args) :
    ∃ piece, arg.Prints piece ∧ piece.length < shown.length := by
  cases prints with
  | call padded each divided after =>
    obtain ⟨piece, member, printed⟩ := exists_of_mem_right each.flip among
    have part := divided.length_le member
    refine ⟨piece, printed, ?_⟩
    simp only [List.length_append, List.length_cons]
    omega

/-- A writing is at least as long as the names that it mentions. -/
theorem Mentions.length_le (mentions : e.Mentions name) :
    ∀ {shown : List Char}, e.Prints shown → name.toList.length ≤ shown.length := by
  induction mentions with
  | literal =>
    intro shown prints
    cases prints with
    | literal padded =>
      obtain ⟨left, right, -, -, rfl⟩ := padded
      simp only [List.length_append]
      omega
  | argument among mentions ih =>
    intro shown prints
    obtain ⟨piece, printed, shorter⟩ := prints.exists_shorter among
    exact (ih printed).trans shorter.le

/-- A call has no room for its own text among its arguments. -/
theorem Mentions.eq_literal (mentions : e.Mentions name) (prints : e.Prints name.toList) :
    e = .literal name := by
  cases mentions with
  | literal => rfl
  | argument among mentions =>
    obtain ⟨piece, printed, shorter⟩ := prints.exists_shorter among
    exact absurd (mentions.length_le printed) (Nat.not_le_of_lt shorter)

theorem isToken_of_mentions (readable : parse name = .ok e) (mentions : e.Mentions name) :
    IsToken parentheses name.toList := by
  obtain ⟨sound, prints⟩ := parse_eq_ok_iff.mp readable
  rw [mentions.eq_literal prints] at sound
  cases sound with
  | literal token => exact token

theorem parse_token (token : IsToken parentheses name.toList) :
    parse name = .ok (.literal name) :=
  parse_eq_ok_iff.mpr ⟨.literal token, .literal (padded_self name.toList)⟩

end Expr

namespace Field

variable {field : Field}

def IsPlain (field : Field) : Prop := field.name = "" ∨ IsToken Expr.parentheses field.name.toList

instance (field : Field) : Decidable field.IsPlain :=
  inferInstanceAs (Decidable (field.name = "" ∨ IsToken Expr.parentheses field.name.toList))

theorem cellText_of_plain (own : field.formula = field.name) (plain : field.IsPlain)
    (value : String) : field.cellText value = .ok value := by
  rw [cellText, own]
  split
  · rfl
  · rename_i named
    have readable := Expr.parse_token (plain.resolve_left named)
    simp [readable, bind, Except.bind, Expr.evaluate, Binding.literal, Value.cellText, pure,
      Except.pure]

theorem cellText_of_not_plain (own : field.formula = field.name) (special : ¬ field.IsPlain)
    (value other : String) : field.cellText value = field.cellText other := by
  rw [IsPlain, not_or] at special
  rw [cellText, cellText, own, if_neg special.1, if_neg special.1]
  cases readable : Expr.parse field.name with
  | error e => rfl
  | ok e =>
    have unmentioned : ¬ e.Mentions field.name := fun mentions =>
      special.2 (Expr.isToken_of_mentions readable mentions)
    simp only [bind, Except.bind, Expr.evaluate_of_unmentioned value other unmentioned]

/-- The value is kept exactly by plain names; with any other name all rows come to the same. -/
theorem cellText_of_own_name (own : field.formula = field.name) :
    ((∀ value, field.cellText value = .ok value) ↔ field.IsPlain) ∧
      (¬ field.IsPlain → ∃ outcome, ∀ value, field.cellText value = outcome) := by
  refine ⟨⟨?_, cellText_of_plain own⟩, ?_⟩
  · intro keeps
    by_contra special
    have same := cellText_of_not_plain own special "" "0"
    rw [keeps, keeps] at same
    exact absurd same (by decide)
  · intro special
    exact ⟨field.cellText "", fun value => cellText_of_not_plain own special value ""⟩

theorem cellText_of_own_name_of_words :
    (⟨"unit price", "A1", "unit price"⟩ : Field).cellText "3" = .ok "3" := by
  have own : (⟨"unit price", "A1", "unit price"⟩ : Field).formula =
      (⟨"unit price", "A1", "unit price"⟩ : Field).name := rfl
  exact (cellText_of_own_name own).1.mpr (by decide) "3"

/-- A name with parentheses is read as a call, here of a function that there is none of. -/
theorem cellText_of_parentheses :
    (⟨"金額(円)", "A1", "金額(円)"⟩ : Field).cellText "100" = .ok "" := by
  cbv

end Field

end ReportSheets
