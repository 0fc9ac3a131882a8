import ReportSheets.Form.Field
import ReportSheets.Proofs.Formula.Balance
import ReportSheets.Proofs.Outcome

namespace ReportSheets

variable {e : Error}

namespace Date

theorem kind_of_read?_error {text : String} (failed : read? text = .error e) :
    e.kind = .format := by
  unfold read? at failed
  split at failed
  · cases failed
  · split at failed <;> cases failed
    rfl

theorem kind_of_eraYear_error {date : Date} (failed : date.eraYear = .error e) :
    e.kind = .format := by
  unfold eraYear at failed
  split at failed <;> cases failed
  rfl

end Date

theorem kind_of_formatNumber_error {n : Binary64} {pattern : String}
    (failed : formatNumber n pattern = .error e) : e.kind = .format := by
  unfold formatNumber at failed
  split at failed
  · cases failed
    rfl
  · have unread := of_map_error failed
    unfold NumberPattern.parse at unread
    split at unread <;> cases unread
    rfl

def Error.OfEvaluation (e : Error) : Prop := e.kind = .type ∨ e.kind = .format

namespace Function

variable {f : Function} {args : List Value}

theorem ofEvaluation_of_apply (failed : f.apply args = .error e) : e.OfEvaluation := by
  unfold apply at failed
  split at failed
  · cases failed
    exact .inl rfl
  split at failed
  · exact .inr (Date.kind_of_eraYear_error (of_map_error (of_map_error failed)))
  · exact .inr (Date.kind_of_eraYear_error (of_map_error failed))
  · exact .inr (Date.kind_of_read?_error (of_map_error failed))
  · exact .inr (Date.kind_of_read?_error (of_map_error failed))
  · cases failed
  · exact .inr (kind_of_formatNumber_error (of_map_error failed))
  · cases failed
    exact .inl rfl

end Function

namespace Expr

theorem ofEvaluation_of_applyNamed {name : String} {args : List Value}
    (failed : applyNamed name args = .error e) : e.OfEvaluation := by
  unfold applyNamed at failed
  split at failed
  · exact Function.ofEvaluation_of_apply failed
  · cases failed

mutual

theorem ofEvaluation_of_evaluate (b : Binding) :
    ∀ {expr : Expr}, evaluate b expr = .error e → e.OfEvaluation
  | .literal text, failed => by cases failed
  | .call name args, failed => by
    rcases of_bind_error failed with argument | ⟨values, -, call⟩
    · exact ofEvaluation_of_evaluateAll b argument
    · exact ofEvaluation_of_applyNamed call

theorem ofEvaluation_of_evaluateAll (b : Binding) :
    ∀ {args : List Expr}, evaluateAll b args = .error e → e.OfEvaluation
  | [], failed => by cases failed
  | arg :: args, failed => by
    rcases of_bind_error failed with first | ⟨value, -, later⟩
    · exact ofEvaluation_of_evaluate b first
    · exact ofEvaluation_of_evaluateAll b (of_map_error later)

end

end Expr

namespace Field

variable {field : Field} {value : String}

theorem kind_of_cellText_error (failed : field.cellText value = .error e) :
    e.kind = .parse ∨ e.OfEvaluation := by
  unfold cellText at failed
  split at failed
  · cases failed
  rcases of_bind_error failed with unread | ⟨expr, -, failed⟩
  · exact .inl (Expr.kind_of_read_error _ unread)
  rcases of_bind_error failed with unvalued | ⟨result, -, failed⟩
  · exact .inr (Expr.ofEvaluation_of_evaluate _ unvalued)
  · cases failed

theorem kind_of_address_error (failed : field.address = .error e) : e.kind = .format := by
  unfold address CellAddress.parse at failed
  split at failed <;> cases failed
  rfl

end Field

end ReportSheets
