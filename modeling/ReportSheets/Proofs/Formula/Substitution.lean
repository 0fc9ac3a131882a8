import ReportSheets.Proofs.Formula.OwnName

namespace ReportSheets

def quotedLiteral (text : String) : String := "\"" ++ text ++ "\""

namespace Binding

variable {b free : Binding} {text : String}

/-- The quotes around the text are the ones taken off: those inside it stay. -/
theorem unquoted?_quotedLiteral (text : String) :
    unquoted? (quotedLiteral text).toList = some text.toList := by
  have whole : (quotedLiteral text).toList = '"' :: (text.toList ++ ['"']) := by
    rw [quotedLiteral, String.toList_append, String.toList_append]
    rfl
  rw [whole, unquoted?, Expr.beforeLast?, List.getLast?_concat, if_pos rfl, List.dropLast_concat]

theorem literal_quotedLiteral (text : String) (foreign : quotedLiteral text ≠ free.field) :
    free.literal (quotedLiteral text) = .text text := by
  rw [literal, if_neg foreign, unquoted?_quotedLiteral]
  exact congrArg Value.text String.ofList_toList

theorem literal_field (b : Binding) : b.literal b.field = .text b.value := if_pos rfl

/-- A literal that is the name of neither field does not see the rows. -/
theorem literal_foreign (foreign : text ≠ b.field) (other : text ≠ free.field) :
    free.literal text = b.literal text := by
  rw [literal, literal, if_neg foreign, if_neg other]

end Binding

namespace Expr

mutual

/-- The expression with the row's value, between quotes, for every literal that is the name of the
field. -/
def filled (b : Binding) : Expr → Expr
  | .literal text => .literal (if text = b.field then quotedLiteral b.value else text)
  | .call name args => .call name (filledAll b args)

def filledAll (b : Binding) : List Expr → List Expr
  | [] => []
  | arg :: args => filled b arg :: filledAll b args

end

variable {b free : Binding}

mutual

theorem evaluate_filled :
    ∀ {e : Expr}, ¬ (e.filled b).Mentions free.field → evaluate free (e.filled b) = evaluate b e
  | .literal text, unmentioned => by
    rw [filled] at unmentioned ⊢
    by_cases own : text = b.field
    · rw [if_pos own] at unmentioned ⊢
      have foreign : quotedLiteral b.value ≠ free.field := by
        intro same
        exact unmentioned (same ▸ .literal)
      rw [evaluate, evaluate, Binding.literal_quotedLiteral b.value foreign, own, b.literal_field]
    · rw [if_neg own] at unmentioned ⊢
      have other : text ≠ free.field := by
        rintro rfl
        exact unmentioned .literal
      rw [evaluate, evaluate, Binding.literal_foreign own other]
  | .call name args, unmentioned => by
    rw [filled] at unmentioned ⊢
    have each := evaluateAll_filled fun arg among mentions =>
      unmentioned (.argument among mentions)
    rw [evaluate, evaluate, each]

theorem evaluateAll_filled :
    ∀ {args : List Expr}, (∀ arg ∈ filledAll b args, ¬ arg.Mentions free.field) →
      evaluateAll free (filledAll b args) = evaluateAll b args
  | [], _ => rfl
  | arg :: args, unmentioned => by
    rw [filledAll] at unmentioned ⊢
    have first := evaluate_filled (unmentioned _ List.mem_cons_self)
    have later := evaluateAll_filled fun next among =>
      unmentioned next (List.mem_cons_of_mem _ among)
    rw [evaluateAll, evaluateAll, first, later]

end

/-- The row's value may as well stand in the formula as a quoted text: under any field whose name is
then no literal of it, and any row, it comes to the same value or the same error. A formula that does
not mention its field comes to the same for all rows. -/
theorem evaluate_value_as_data :
    (∀ (e : Expr) (b free : Binding), ¬ (e.filled b).Mentions free.field →
      evaluate b e = evaluate free (e.filled b)) ∧
    ∀ (e : Expr) (field : String), ¬ e.Mentions field →
      ∀ value other : String, evaluate ⟨field, value⟩ e = evaluate ⟨field, other⟩ e := by
  refine ⟨?_, ?_⟩
  · intro e b free unmentioned
    exact (evaluate_filled unmentioned).symm
  · intro e field unmentioned value other
    exact evaluate_of_unmentioned value other unmentioned

/-- As part of the formula the value would end the argument and call `CTOD` again. -/
theorem evaluate_value_as_data_of_call :
    evaluate ⟨"a", "\"),CTOD(\"1"⟩ (.call "CTOD" [.literal "a"]) =
        evaluate ⟨"b", "2"⟩ (.call "CTOD" [.literal "\"\"),CTOD(\"1\""]) ∧
      evaluate ⟨"a", "1"⟩ (.call "CTOD" [.literal "b"]) =
        evaluate ⟨"a", "2"⟩ (.call "CTOD" [.literal "b"]) := by
  obtain ⟨carried, same⟩ := evaluate_value_as_data
  have onlyLiteral : ∀ {name text : String}, name ≠ text →
      ¬ (call "CTOD" [.literal text]).Mentions name := by
    intro name text other mentions
    cases mentions with
    | argument among mentions =>
      rw [List.mem_singleton.mp among] at mentions
      cases mentions with
      | literal => exact other rfl
  constructor
  · exact carried (.call "CTOD" [.literal "a"]) ⟨"a", "\"),CTOD(\"1"⟩ ⟨"b", "2"⟩
      (onlyLiteral (by decide))
  · exact same _ "a" (onlyLiteral (by decide)) "1" "2"

end Expr

end ReportSheets
