import Mathlib.Data.List.Nodup
import ReportSheets.Proofs.Form.Registry

namespace ReportSheets

structure FormLoad where
  formFile : String
  answer : Except Error (List Field)

namespace FormLoad

def names (log : List FormLoad) : List String := log.map (·.formFile)

def first? (log : List FormLoad) (formFile : String) : Option (Except Error (List Field)) :=
  (log.find? fun load => load.formFile = formFile).map (·.answer)

inductive Asked (log : List FormLoad) (formFile : String) :
    Except Error (List Field) → List FormLoad → Prop
  | known {answer : Except Error (List Field)} (given : first? log formFile = some answer) :
      Asked log formFile answer log
  | fresh {answer : Except Error (List Field)} (unknown : first? log formFile = none) :
      Asked log formFile answer (log ++ [⟨formFile, answer⟩])

variable {log later : List FormLoad} {formFile : String} {answer : Except Error (List Field)}

theorem first?_append : first? (log ++ later) formFile =
    (first? log formFile).or (first? later formFile) := by
  rw [first?, List.find?_append, Option.map_or]
  rfl

theorem first?_eq_none_iff : first? log formFile = none ↔ formFile ∉ names log := by
  simp [first?, names]

theorem first?_of_prefix (before : log <+: later) (first : first? log formFile = some answer) :
    first? later formFile = some answer := by
  obtain ⟨rest, rfl⟩ := before
  rw [first?_append, first]
  rfl

theorem names_concat : names (log ++ [⟨formFile, answer⟩]) = names log ++ [formFile] := by
  simp [names]

namespace Asked

theorem isPrefix (asked : Asked log formFile answer later) : log <+: later := by
  cases asked with
  | known given => exact List.prefix_rfl
  | fresh unknown => exact List.prefix_append _ _

theorem first (asked : Asked log formFile answer later) :
    first? later formFile = some answer := by
  cases asked with
  | known given => exact given
  | fresh unknown =>
    rw [first?_append, unknown]
    simp [first?]

theorem nodup (asked : Asked log formFile answer later) (distinct : (names log).Nodup) :
    (names later).Nodup := by
  cases asked with
  | known given => exact distinct
  | fresh unknown =>
    rw [names_concat]
    exact List.nodup_append_comm.mp (distinct.cons (first?_eq_none_iff.1 unknown))

theorem names_append (asked : Asked log formFile answer later) (reached : List String) :
    names later ++ (reached.removeAll (names later)).eraseDups =
      names log ++ ((formFile :: reached).removeAll (names log)).eraseDups := by
  cases asked with
  | known given =>
    have among : formFile ∈ names log := by
      by_contra missing
      rw [first?_eq_none_iff.2 missing] at given
      cases given
    simp [List.removeAll, among]
  | fresh unknown =>
    have missing : formFile ∉ names log := first?_eq_none_iff.1 unknown
    have begins : (formFile :: reached).removeAll (names log) =
        formFile :: reached.removeAll (names log) := by
      simp [List.removeAll, missing]
    have fewer : reached.removeAll (names log ++ [formFile]) =
        (reached.removeAll (names log)).filter (fun other => !other == formFile) := by
      rw [List.removeAll, List.removeAll, List.filter_filter]
      apply List.filter_congr
      intro other _
      by_cases same : other = formFile <;> simp [same]
    rw [names_concat, fewer, begins, List.eraseDups_cons, List.append_assoc]
    rfl

end Asked

end FormLoad

namespace FieldSource

variable {σ τ : Type}

def recorded (source : FieldSource σ) : FieldSource (List FormLoad × σ) where
  load formFile kept :=
    match source.load formFile kept.2 with
    | (answer, state) => (answer, kept.1 ++ [⟨formFile, answer⟩], state)

/-- The source answers as the other does, whose state is the part of its own that `part` gives. -/
def Follows (source : FieldSource τ) (part : τ → σ) (other : FieldSource σ) : Prop :=
  ∀ formFile state, other.load formFile (part state) =
    ((source.load formFile state).1, part (source.load formFile state).2)

theorem follows_recorded (source : FieldSource σ) : source.recorded.Follows Prod.snd source :=
  fun _ _ => rfl

theorem Follows.getOrLoad {source : FieldSource τ} {part : τ → σ} {other : FieldSource σ}
    (follows : source.Follows part other) (cache : RegistryCache) (formFile : String) (state : τ) :
    cache.getOrLoad other formFile (part state) =
      ((cache.getOrLoad source formFile state).1, (cache.getOrLoad source formFile state).2.1,
        part (cache.getOrLoad source formFile state).2.2) := by
  unfold RegistryCache.getOrLoad
  cases cache.get? formFile with
  | some registry => rfl
  | none =>
    have same := follows formFile state
    rcases load : source.load formFile state with ⟨answer, after⟩
    rw [load] at same
    simp only [same]
    cases answer <;> rfl

end FieldSource

/-- The cache holds what the calls have given, and no call has failed. -/
def RegistryCache.Keeps (cache : RegistryCache) (log : List FormLoad) : Prop :=
  ∀ formFile, (FormLoad.first? log formFile).map (·.map Registry.ofFields) =
    (cache.get? formFile).map .ok

namespace RegistryCache

variable {σ : Type} {source : FieldSource σ} {cache : RegistryCache} {formFile : String}

theorem Keeps.getOrLoad {kept : List FormLoad × σ} (keeps : cache.Keeps kept.1)
    (source : FieldSource σ) (formFile : String) :
    ∃ answer cache' kept', FormLoad.Asked kept.1 formFile answer kept'.1 ∧
      cache.getOrLoad source.recorded formFile kept =
        (answer.map Registry.ofFields, cache', kept') ∧
      ∀ fields, answer = .ok fields → cache'.Keeps kept'.1 := by
  have here := keeps formFile
  cases given : FormLoad.first? kept.1 formFile with
  | some answer =>
    rw [given] at here
    cases known : cache.get? formFile with
    | none => rw [known] at here; cases here
    | some registry =>
      rw [known] at here
      refine ⟨answer, cache, kept, .known given, ?_, fun _ _ => keeps⟩
      have same : answer.map Registry.ofFields = .ok registry := Option.some_inj.mp here
      rw [getOrLoad_known known, same]
  | none =>
    rw [given] at here
    have unknown : cache.get? formFile = none := by
      cases known : cache.get? formFile with
      | none => rfl
      | some registry => rw [known] at here; cases here
    rcases load : source.load formFile kept.2 with ⟨answer, after⟩
    have called : source.recorded.load formFile kept =
        (answer, kept.1 ++ [⟨formFile, answer⟩], after) := by
      simp only [FieldSource.recorded, load]
    cases answer with
    | error e =>
      refine ⟨.error e, cache, _, .fresh given, getOrLoad_failed unknown called, nofun⟩
    | ok fields =>
      refine ⟨.ok fields, _, _, .fresh given, getOrLoad_loaded unknown called, ?_⟩
      rintro _ - other
      rw [get?_adding unknown, FormLoad.first?_append]
      split
      · rename_i same
        subst same
        rw [given]
        simp [FormLoad.first?]
        rfl
      · rename_i different
        rw [← keeps other]
        simp [FormLoad.first?, different]

end RegistryCache

end ReportSheets
