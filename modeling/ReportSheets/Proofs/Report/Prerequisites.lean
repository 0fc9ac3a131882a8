import ReportSheets.Proofs.Report.Forms

namespace ReportSheets.Context

variable {σ τ : Type} {forms : FieldSource σ} {ctx : Context} {state : σ} {e : Error}
  {formFile : String} {fields : List Field}

structure LoadsForm (forms : FieldSource σ) (ctx : Context) (state : σ) (formFile : String)
    (fields : List Field) : Prop where
  chosen : ctx.formFile = some formFile
  unknown : ctx.registries.get? formFile = none
  given : (forms.load formFile state).1 = .ok fields

def HasFields (forms : FieldSource σ) (ctx : Context) (state : σ) (formFile : String) : Prop :=
  (∃ registry, ctx.registries.get? formFile = some registry) ∨
    ∃ fields, ctx.LoadsForm forms state formFile fields

/-- The first thing that binding finds missing, in the order in which it looks: the form, the form's
fields, the workbook. -/
inductive Lacks (forms : FieldSource σ) (ctx : Context) (state : σ) : Error → Prop
  | form (missing : ctx.formFile = none) : Lacks forms ctx state .noForm
  | fields {formFile : String} {e : Error} (chosen : ctx.formFile = some formFile)
      (unknown : ctx.registries.get? formFile = none)
      (failed : (forms.load formFile state).1 = .error e) : Lacks forms ctx state e
  | workbook {formFile : String} (chosen : ctx.formFile = some formFile)
      (known : ctx.HasFields forms state formFile) (missing : ctx.workbook = none) :
      Lacks forms ctx state .noTemplate

inductive Gains (forms : FieldSource σ) (ctx : Context) (state : σ) : RegistryCache → Prop
  | nothing : Gains forms ctx state ctx.registries
  | form {formFile : String} {fields : List Field}
      (loads : ctx.LoadsForm forms state formFile fields) :
      Gains forms ctx state (ctx.registries.adding formFile (.ofFields fields))

def mended (ctx : Context) (formFile : Option String) (workbook : Option Workbook) : Context :=
  { ctx with formFile, workbook }

/-- A form that the call loaded has the same fields in the other source. -/
def StillLoads (forms : FieldSource σ) (ctx : Context) (state : σ) (source : FieldSource τ)
    (later : τ) : Prop :=
  ∀ formFile fields, ctx.LoadsForm forms state formFile fields →
    (source.load formFile later).1 = .ok fields

def SameOutcome (one : Except Error Bool × Context × σ) (other : Except Error Bool × Context × τ) :
    Prop :=
  one.1 = other.1 ∧ one.2.1.keeping .empty = other.2.1.keeping .empty

theorem bindSection_of_loads (loads : ctx.LoadsForm forms state formFile fields) :
    ctx.bindSection forms state =
      ((ctx.bindWith (.ofFields fields)).1,
        (ctx.bindWith (.ofFields fields)).2.keeping
          (ctx.registries.adding formFile (.ofFields fields)),
        (forms.load formFile state).2) :=
  bindSection_loaded loads.chosen
    (RegistryCache.getOrLoad_loaded loads.unknown (Prod.ext loads.given rfl))

theorem bindSection_of_known {registry : Registry} (chosen : ctx.formFile = some formFile)
    (known : ctx.registries.get? formFile = some registry) :
    ctx.bindSection forms state =
      ((ctx.bindWith registry).1, (ctx.bindWith registry).2.keeping ctx.registries, state) :=
  bindSection_loaded chosen (RegistryCache.getOrLoad_known known)

theorem bindWith_of_missing (registry : Registry) (missing : ctx.workbook = none) :
    ctx.bindWith registry = (.error .noTemplate, ctx) := by
  rw [bindWith, missing]

theorem Lacks.bindSection (lacks : ctx.Lacks forms state e) :
    ∃ cache state', ctx.bindSection forms state = (.error e, ctx.keeping cache, state') ∧
      ctx.Gains forms state cache := by
  cases lacks with
  | form missing => exact ⟨_, _, bindSection_formless missing, .nothing⟩
  | fields chosen unknown failed =>
    have answered := RegistryCache.getOrLoad_failed unknown (Prod.ext failed rfl)
    exact ⟨_, _, bindSection_unloaded chosen answered, .nothing⟩
  | @workbook formFile chosen known missing =>
    rcases known with ⟨registry, known⟩ | ⟨fields, loads⟩
    · refine ⟨_, state, ?_, .nothing⟩
      rw [bindSection_of_known chosen known, bindWith_of_missing registry missing]
    · refine ⟨_, (forms.load formFile state).2, ?_, .form loads⟩
      rw [bindSection_of_loads loads, bindWith_of_missing _ missing]

theorem bindSection_of_not_lacks (nothing : ∀ e, ¬ ctx.Lacks forms state e) :
    ∃ registry cache state', ctx.workbook ≠ none ∧ ctx.bindSection forms state =
      ((ctx.bindWith registry).1, (ctx.bindWith registry).2.keeping cache, state') := by
  cases form : ctx.formFile with
  | none => exact absurd (.form form) (nothing _)
  | some formFile =>
    have loaded (known : ctx.HasFields forms state formFile) : ctx.workbook ≠ none :=
      fun missing => nothing _ (.workbook form known missing)
    cases known : ctx.registries.get? formFile with
    | some registry =>
      exact ⟨_, _, _, loaded (.inl ⟨registry, known⟩), bindSection_of_known form known⟩
    | none =>
      cases given : (forms.load formFile state).1 with
      | error e => exact absurd (.fields form known given) (nothing _)
      | ok fields =>
        have loads : ctx.LoadsForm forms state formFile fields := ⟨form, known, given⟩
        exact ⟨_, _, _, loaded (.inr ⟨fields, loads⟩), bindSection_of_loads loads⟩

theorem SameOutcome.of_answers {other : Context} {source : FieldSource τ} {later : τ}
    (alike : ctx.keeping .empty = other.keeping .empty)
    (answers : ∀ formFile, ctx.formFile = some formFile →
      (ctx.registries.getOrLoad forms formFile state).1 =
        (other.registries.getOrLoad source formFile later).1) :
    SameOutcome (ctx.bindSection forms state) (other.bindSection source later) := by
  have sameForm : ctx.formFile = other.formFile := congrArg (·.formFile) alike
  cases form : ctx.formFile with
  | none =>
    rw [bindSection_formless form, bindSection_formless (sameForm ▸ form)]
    exact ⟨rfl, alike⟩
  | some formFile =>
    have answer := answers formFile form
    rcases one : ctx.registries.getOrLoad forms formFile state with ⟨given, cache, after⟩
    rcases two : other.registries.getOrLoad source formFile later with ⟨given', cache', after'⟩
    rw [one, two] at answer
    subst answer
    cases given with
    | error e =>
      rw [bindSection_unloaded form one, bindSection_unloaded (sameForm ▸ form) two]
      exact ⟨rfl, alike⟩
    | ok registry =>
      rw [bindSection_loaded form one, bindSection_loaded (sameForm ▸ form) two]
      -- what the rows make of the context does not depend on its cache
      have bound := bindWith_keeping registry ctx .empty
      rw [alike, bindWith_keeping] at bound
      exact ⟨(congrArg (·.1) bound).symm, (congrArg (·.2) bound).symm⟩

theorem Gains.sameOutcome {cache : RegistryCache} (gains : ctx.Gains forms state cache)
    {source : FieldSource τ} {later : τ} (still : ctx.StillLoads forms state source later)
    (formFile : Option String) (workbook : Option Workbook) :
    SameOutcome (((ctx.keeping cache).mended formFile workbook).bindSection source later)
      ((ctx.mended formFile workbook).bindSection source later) := by
  cases gains with
  | nothing => exact ⟨rfl, rfl⟩
  | @form loaded fields loads =>
    refine .of_answers rfl ?_
    intro asked _
    show ((ctx.registries.adding loaded (.ofFields fields)).getOrLoad source asked later).1 =
      (ctx.registries.getOrLoad source asked later).1
    have known : (ctx.registries.adding loaded (.ofFields fields)).get? asked = _ :=
      RegistryCache.get?_adding loads.unknown asked
    by_cases same : loaded = asked
    · subst same
      have given := still loaded fields loads
      rw [if_pos rfl] at known
      rw [RegistryCache.getOrLoad_known known,
        RegistryCache.getOrLoad_loaded loads.unknown (Prod.ext given rfl)]
    · rw [if_neg same] at known
      unfold RegistryCache.getOrLoad
      rw [known]
      cases ctx.registries.get? asked with
      | some registry => rfl
      | none => rcases source.load asked later with ⟨_ | _, _⟩ <;> rfl

/-- With the form's fields at hand only the workbook was missing, and the source may go on as the
failed call has left it. -/
theorem bindSection_mended_workbook {answer : Except Error Bool} {cache : RegistryCache}
    {state' : σ} (chosen : ctx.formFile = some formFile)
    (known : ctx.HasFields forms state formFile)
    (failed : ctx.bindSection forms state = (answer, ctx.keeping cache, state'))
    (workbook : Option Workbook) :
    ((ctx.keeping cache).mended (some formFile) workbook).bindSection forms state' =
      (ctx.mended (some formFile) workbook).bindSection forms state := by
  rcases known with ⟨registry, known⟩ | ⟨fields, loads⟩
  · rw [bindSection_of_known chosen known, Prod.mk.injEq, Prod.mk.injEq] at failed
    obtain ⟨-, kept, rfl⟩ := failed
    have same : ctx.registries = cache := congrArg Context.registries kept
    rw [← same]
    rfl
  · rw [bindSection_of_loads loads, Prod.mk.injEq, Prod.mk.injEq] at failed
    obtain ⟨-, kept, rfl⟩ := failed
    have same : ctx.registries.adding formFile (.ofFields fields) = cache :=
      congrArg Context.registries kept
    have first : (ctx.mended (some formFile) workbook).LoadsForm forms state formFile fields :=
      ⟨rfl, loads.unknown, loads.given⟩
    have found : (ctx.registries.adding formFile (.ofFields fields)).get? formFile = _ :=
      RegistryCache.get?_adding loads.unknown formFile
    rw [if_pos rfl] at found
    have commute : (ctx.keeping cache).mended (some formFile) workbook =
        (ctx.mended (some formFile) workbook).keeping cache := rfl
    rw [commute, ← same, bindSection_of_loads first, bindSection_of_known rfl found,
      bindWith_keeping]
    rfl

/-- Binding asks for the form, its fields and the workbook in this order. A call that lacks one of
them reads no line and changes nothing but the cache, which gains at most the form that was loaded.
Once form, fields and workbook are mended, in whatever way, the next call has the outcome of a first
one. -/
theorem bindSection_prerequisites (forms : FieldSource σ) (ctx : Context) (state : σ) :
    ((∀ e, ¬ ctx.Lacks forms state e) →
      ∃ registry cache state', ctx.workbook ≠ none ∧ ctx.bindSection forms state =
        ((ctx.bindWith registry).1, (ctx.bindWith registry).2.keeping cache, state')) ∧
    Error.noForm.kind = .format ∧ Error.noTemplate.kind = .notFound ∧
    ∀ e, ctx.Lacks forms state e →
      ∃ cache state', ctx.bindSection forms state = (.error e, ctx.keeping cache, state') ∧
        ctx.Gains forms state cache ∧
        (∀ (τ : Type) (source : FieldSource τ) (later : τ), ctx.StillLoads forms state source later →
          ∀ formFile workbook,
            SameOutcome (((ctx.keeping cache).mended formFile workbook).bindSection source later)
              ((ctx.mended formFile workbook).bindSection source later)) ∧
        ∀ formFile, ctx.formFile = some formFile → ctx.HasFields forms state formFile →
          ∀ workbook,
            ((ctx.keeping cache).mended (some formFile) workbook).bindSection forms state' =
              (ctx.mended (some formFile) workbook).bindSection forms state := by
  refine ⟨bindSection_of_not_lacks, rfl, rfl, ?_⟩
  intro e lacks
  obtain ⟨cache, state', failed, gains⟩ := lacks.bindSection
  refine ⟨cache, state', failed, gains, ?_, ?_⟩
  · intro τ source later still formFile workbook
    exact gains.sameOutcome still formFile workbook
  · intro formFile chosen known workbook
    exact bindSection_mended_workbook chosen known failed workbook

/-- A source that counts its calls: after a call without a workbook the form is not loaded again. -/
theorem bindSection_prerequisites_of_missing_workbook :
    let forms : FieldSource Nat := ⟨fun _ calls => (.ok [⟨"a", "A1", ""⟩], calls + 1)⟩
    let ctx : Context := { reader := .ofText "a\n1\n", formFile := some "f" }
    ctx.Lacks forms 0 .noTemplate ∧ ctx.StillLoads forms 0 forms 5 ∧
      ∃ cache, ctx.bindSection forms 0 = (.error .noTemplate, ctx.keeping cache, 1) ∧
        SameOutcome
          (((ctx.keeping cache).mended (some "f") (some ⟨[⟨"S", .empty, {}⟩], 0⟩)).bindSection
            forms 5)
          ((ctx.mended (some "f") (some ⟨[⟨"S", .empty, {}⟩], 0⟩)).bindSection forms 5) := by
  intro forms ctx
  have loads : ctx.LoadsForm forms 0 "f" [⟨"a", "A1", ""⟩] := ⟨rfl, rfl, rfl⟩
  have lacks : ctx.Lacks forms 0 .noTemplate := .workbook rfl (.inr ⟨_, loads⟩) rfl
  have still : ctx.StillLoads forms 0 forms 5 := by
    intro formFile fields loads
    exact loads.given
  obtain ⟨cache, calls, failed, -, again, -⟩ :=
    (bindSection_prerequisites forms ctx 0).2.2.2 .noTemplate lacks
  have counted : calls = 1 := (congrArg (·.2.2) failed).symm
  exact ⟨lacks, still, cache, counted ▸ failed, again Nat forms 5 still _ _⟩

end ReportSheets.Context
