import ReportSheets.Proofs.Formula.Failure
import ReportSheets.Proofs.Formula.Literals
import ReportSheets.Proofs.Formula.Substitution

namespace ReportSheets

namespace Function

variable {f : Function} {name : String} {args : List Value} {result : Value}

theorem eq_name_of_named? (found : named? name = some f) : name = f.name := by
  have same := List.find?_some found
  exact (beq_iff_eq.mp same).symm

theorem ne_name_of_named?_none (missing : named? name = none) : ∀ f : Function, name ≠ f.name := by
  rintro f rfl
  rw [named?_name] at missing
  cases missing

/-- The types of the arguments that a function takes and of the value that it gives for them. -/
inductive Accepts : Function → List ValueType → ValueType → Prop
  | nengo : Accepts .nengo [.date] .text
  | wyear : Accepts .wyear [.date] .number
  | textDate : Accepts .ctod [.text] .date
  | numberDate : Accepts .ctod [.number] .date
  | noDate {given : ValueType} (other : given ≠ .date) : Accepts .ctod [given] .absent
  | format : Accepts .format [.number, .text] .text

theorem Accepts.length_eq {types : List ValueType} {given : ValueType}
    (accepts : f.Accepts types given) : types.length = f.arity := by
  cases accepts <;> rfl

theorem type_of_ofDate {text : String} (done : ofDate text = .ok result) :
    result.type = .date ∨ result.type = .absent := by
  obtain ⟨date?, -, rfl⟩ := exists_of_map_ok done
  cases date? with
  | none => exact .inr rfl
  | some date => exact .inl rfl

theorem accepts_of_apply (done : f.apply args = .ok result) :
    f.Accepts (args.map Value.type) result.type := by
  unfold apply at done
  split at done
  · cases done
  split at done
  · obtain ⟨text, -, rfl⟩ := exists_of_map_ok done
    exact .nengo
  · obtain ⟨counted, -, rfl⟩ := exists_of_map_ok done
    exact .wyear
  · rcases type_of_ofDate done with type | type <;> rw [type]
    · exact .textDate
    · exact .noDate nofun
  · rcases type_of_ofDate done with type | type <;> rw [type]
    · exact .numberDate
    · exact .noDate nofun
  · cases done
    exact .noDate nofun
  · obtain ⟨text, -, rfl⟩ := exists_of_map_ok done
    exact .format
  · cases done

end Function

namespace Expr

inductive HasType (field : String) : Expr → ValueType → Prop
  | own : HasType field (.literal field) .text
  | quoted (inner : String) : HasType field (.literal (quotedLiteral inner)) .text
  | plain {text : String} (shape : ¬ PlainNumber text.toList) : HasType field (.literal text) .text
  | number {text : String} (foreign : text ≠ field) (shape : PlainNumber text.toList) :
      HasType field (.literal text) .number
  | nengo (args : List Expr) : HasType field (.call "NENGO" args) .text
  | format (args : List Expr) : HasType field (.call "FORMAT" args) .text
  | wyear (args : List Expr) : HasType field (.call "WYEAR" args) .number
  | date (args : List Expr) : HasType field (.call "CTOD" args) .date
  | noDate (args : List Expr) : HasType field (.call "CTOD" args) .absent
  | unknown {name : String} (args : List Expr) (foreign : ∀ f : Function, name ≠ f.name) :
      HasType field (.call name args) .absent

inductive Misapplied (field : String) : Expr → Prop
  | count {f : Function} {args : List Expr} (other : args.length ≠ f.arity) :
      Misapplied field (.call f.name args)
  | nengo {arg : Expr} (never : ¬ HasType field arg .date) : Misapplied field (.call "NENGO" [arg])
  | wyear {arg : Expr} (never : ¬ HasType field arg .date) : Misapplied field (.call "WYEAR" [arg])
  | format {number pattern : Expr}
      (never : ¬ (HasType field number .number ∧ HasType field pattern .text)) :
      Misapplied field (.call "FORMAT" [number, pattern])

inductive Within (part : Expr) : Expr → Prop
  | self : Within part part
  | argument {name : String} {args : List Expr} {arg : Expr} (among : arg ∈ args)
      (within : Within part arg) : Within part (.call name args)

variable {b : Binding} {field row : String} {e part : Expr} {args : List Expr}
  {result : Value} {results : List Value}

theorem eq_quotedLiteral {text : String} {inner : List Char}
    (between : unquoted? text.toList = some inner) :
    text = quotedLiteral (String.ofList inner) := by
  unfold unquoted? at between
  split at between
  · rename_i rest opening
    rw [← String.toList_inj, opening, beforeLast?_eq_some_iff.mp between]
    simp [quotedLiteral]
  · cases between

theorem hasType_literal (b : Binding) (text : String) :
    HasType b.field (.literal text) (b.literal text).type := by
  unfold Binding.literal
  split
  · rename_i own
    rw [own]
    exact .own
  rename_i foreign
  cases quoted : unquoted? text.toList with
  | some inner =>
    rw [eq_quotedLiteral quoted]
    exact .quoted _
  | none =>
    cases read : plainNumber? text.toList with
    | some number =>
      refine .number foreign (Classical.byContradiction fun shape => ?_)
      rw [plainNumber?_eq_none_iff.mpr shape] at read
      cases read
    | none => exact .plain (plainNumber?_eq_none_iff.mp read)

/-- The row's value is a text, whatever the name of the field looks like. -/
theorem HasType.eq_text_of_own {type : ValueType} (has : HasType field (.literal field) type) :
    type = .text := by
  -- The field is the index too, so a case on the type needs the expression to be a variable.
  generalize own : Expr.literal field = e at has
  cases has with
  | own => rfl
  | quoted inner => rfl
  | plain shape => rfl
  | number foreign shape => exact absurd (Expr.literal.inj own).symm foreign
  | nengo args => cases own
  | format args => cases own
  | wyear args => cases own
  | date args => cases own
  | noDate args => cases own
  | unknown args foreign => cases own

theorem evaluateAll_eq_ok (done : evaluateAll b args = .ok results) :
    List.Forall₂ (fun arg result => evaluate b arg = .ok result) args results := by
  induction args generalizing results with
  | nil =>
    cases done
    exact .nil
  | cons arg args ih =>
    obtain ⟨result, first, later⟩ := of_bind_ok done
    obtain ⟨others, rest, rfl⟩ := exists_of_map_ok later
    exact .cons first (ih rest)

theorem of_call_ok {name : String} (done : evaluate b (.call name args) = .ok result) :
    ∃ results, List.Forall₂ (fun arg result => evaluate b arg = .ok result) args results ∧
      applyNamed name results = .ok result := by
  obtain ⟨results, each, applied⟩ := of_bind_ok done
  exact ⟨results, evaluateAll_eq_ok each, applied⟩

theorem hasType_of_accepts {f : Function} {types : List ValueType} {given : ValueType}
    (accepts : f.Accepts types given) (args : List Expr) : HasType field (.call f.name args) given := by
  cases accepts with
  | nengo => exact .nengo args
  | wyear => exact .wyear args
  | textDate => exact .date args
  | numberDate => exact .date args
  | noDate other => exact .noDate args
  | format => exact .format args

theorem hasType_of_evaluate (done : evaluate b e = .ok result) : HasType b.field e result.type := by
  cases e with
  | literal text =>
    cases done
    exact hasType_literal b text
  | call name args =>
    obtain ⟨results, -, applied⟩ := of_call_ok done
    unfold applyNamed at applied
    split at applied
    · rename_i f found
      rw [Function.eq_name_of_named? found]
      exact hasType_of_accepts (Function.accepts_of_apply applied) args
    · rename_i missing
      cases applied
      exact .unknown args (Function.ne_name_of_named?_none missing)

/-- The arguments of a call that succeeds have types that its function takes. -/
theorem exists_accepts {f : Function} (done : evaluate b (.call f.name args) = .ok result) :
    ∃ types given, f.Accepts types given ∧ List.Forall₂ (HasType b.field) args types := by
  obtain ⟨results, each, applied⟩ := of_call_ok done
  rw [applyNamed, Function.named?_name] at applied
  refine ⟨_, _, Function.accepts_of_apply applied, ?_⟩
  rw [List.forall₂_map_right_iff]
  exact each.imp fun arg result evaluated => hasType_of_evaluate evaluated

theorem not_ok_of_misapplied (misapplied : Misapplied b.field e) : evaluate b e ≠ .ok result := by
  intro done
  cases misapplied with
  | count other =>
    obtain ⟨types, given, accepts, each⟩ := exists_accepts done
    exact other (each.length_eq.trans accepts.length_eq)
  | nengo never =>
    obtain ⟨types, given, accepts, each⟩ := exists_accepts (f := .nengo) done
    cases accepts
    exact never (List.forall₂_cons.mp each).1
  | wyear never =>
    obtain ⟨types, given, accepts, each⟩ := exists_accepts (f := .wyear) done
    cases accepts
    exact never (List.forall₂_cons.mp each).1
  | format never =>
    obtain ⟨types, given, accepts, each⟩ := exists_accepts (f := .format) done
    cases accepts
    obtain ⟨number, rest⟩ := List.forall₂_cons.mp each
    exact never ⟨number, (List.forall₂_cons.mp rest).1⟩

/-- No call around a part that fails hides the failure. -/
theorem exists_ok_of_within (within : Within part e) (done : evaluate b e = .ok result) :
    ∃ inner, evaluate b part = .ok inner := by
  induction within generalizing result with
  | self => exact ⟨result, done⟩
  | argument among within ih =>
    obtain ⟨results, each, -⟩ := of_call_ok done
    obtain ⟨inner, -, evaluated⟩ := exists_of_mem_right each.flip among
    exact ih evaluated

/-- The value of a formula has one of its types, and is a date in calls of `CTOD` alone; what fails
does so for a type or a format; and a call in it that cannot have arguments its function takes makes it
fail for every row. -/
theorem evaluate_typed (e : Expr) (field : String) :
    (∀ row result, evaluate ⟨field, row⟩ e = .ok result → HasType field e result.type) ∧
    (∀ row date, evaluate ⟨field, row⟩ e = .ok (.date date) → ∃ args, e = .call "CTOD" args) ∧
    (∀ row fault, evaluate ⟨field, row⟩ e = .error fault →
      fault.kind = .type ∨ fault.kind = .format) ∧
    ∀ part, Within part e → Misapplied field part →
      ∀ row, ∃ fault, evaluate ⟨field, row⟩ e = .error fault := by
  refine ⟨?_, ?_, ?_, ?_⟩
  · intro row result done
    exact hasType_of_evaluate done
  · intro row date done
    have type : HasType field e .date := hasType_of_evaluate done
    cases type
    exact ⟨_, rfl⟩
  · intro row fault failed
    exact ofEvaluation_of_evaluate ⟨field, row⟩ failed
  · intro part within misapplied row
    cases outcome : evaluate ⟨field, row⟩ e with
    | error fault => exact ⟨fault, rfl⟩
    | ok result =>
      obtain ⟨inner, evaluated⟩ := exists_ok_of_within within outcome
      exact absurd evaluated (not_ok_of_misapplied (b := ⟨field, row⟩) misapplied)

/-- A call of no function hides neither the text that `FORMAT` gets nor the day that does not exist. -/
theorem evaluate_typed_of_hidden :
    (∀ row, ∃ fault, evaluate ⟨"x", row⟩
      (.call "SUM" [.call "FORMAT" [.literal "x", .literal "\"9\""]]) = .error fault) ∧
    (∃ date, evaluate ⟨"x", "2025/04/07"⟩ (.call "CTOD" [.literal "x"]) = .ok (.date date) ∧
      ∃ args, Expr.call "CTOD" [.literal "x"] = .call "CTOD" args) ∧
    HasType "x" (.call "CTOD" [.literal "x"]) .date ∧
    evaluate ⟨"x", "2025/02/30"⟩ (.call "CTOD" [.literal "x"]) =
      .error (.notCalendarDate "2025/02/30") ∧
    ((Error.notCalendarDate "2025/02/30").kind = .type ∨
      (Error.notCalendarDate "2025/02/30").kind = .format) := by
  obtain ⟨-, -, faults, hidden⟩ := evaluate_typed
    (.call "SUM" [.call "FORMAT" [.literal "x", .literal "\"9\""]]) "x"
  obtain ⟨types, dates, reasons, -⟩ := evaluate_typed (.call "CTOD" [.literal "x"]) "x"
  have textual : ¬ HasType "x" (.literal "x") .number := by
    intro type
    cases type.eq_text_of_own
  have day : evaluate ⟨"x", "2025/04/07"⟩ (.call "CTOD" [.literal "x"]) =
      .ok (.date ⟨2025, 4, 7, by decide⟩) := rfl
  have noDay : evaluate ⟨"x", "2025/02/30"⟩ (.call "CTOD" [.literal "x"]) =
      .error (.notCalendarDate "2025/02/30") := rfl
  refine ⟨hidden _ (.argument List.mem_cons_self .self) (.format fun both => textual both.1),
    ⟨_, day, dates _ _ day⟩, types _ _ day, noDay, reasons _ _ noDay⟩

end Expr

end ReportSheets
