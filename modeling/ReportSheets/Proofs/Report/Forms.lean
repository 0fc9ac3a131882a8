import ReportSheets.Proofs.Command.Written
import ReportSheets.Proofs.Form.Loads
import ReportSheets.Proofs.Report.Generate

namespace ReportSheets

def Supplies.recorded {σ : Type} (supplies : Supplies σ) : Supplies (List FormLoad × σ) :=
  ⟨supplies.template, supplies.forms.recorded⟩

namespace FieldSource

variable {σ τ : Type}

theorem Follows.bindSection {source : FieldSource τ} {part : τ → σ} {other : FieldSource σ}
    (follows : source.Follows part other) {ctx next : Context} {state after : τ}
    {more : Except Error Bool} (bound : ctx.bindSection source state = (more, next, after)) :
    ctx.bindSection other (part state) = (more, next, part after) := by
  unfold Context.bindSection at bound ⊢
  cases form : ctx.formFile with
  | none =>
    rw [form] at bound
    cases bound
    rfl
  | some formFile =>
    simp only [form, follows.getOrLoad] at bound ⊢
    rcases loading : ctx.registries.getOrLoad source formFile state with ⟨answer, cache, later⟩
    simp only [loading] at bound
    cases answer <;> cases bound <;> rfl

theorem Follows.generate {template : String → Except Error Workbook} {source : FieldSource τ}
    {part : τ → σ} {other : FieldSource σ} (follows : source.Follows part other) (ctx : Context)
    (state : τ) : ctx.generate ⟨template, other⟩ (part state) =
      ((ctx.generate ⟨template, source⟩ state).1,
        part (ctx.generate ⟨template, source⟩ state).2) := by
  fun_induction Context.generate ⟨template, source⟩ ctx state with
  | case1 ctx state e reader read =>
    rw [Context.generate_eq, read]
  | case2 ctx state lines reader read e after executed =>
    rw [Context.generate_eq, read]
    simp only [executed]
  | case3 ctx state lines reader read after executed bare =>
    rw [Context.generate_eq, read]
    simp only [executed, bare, if_true]
  | case4 ctx state lines reader read after executed loaded e next state' bound =>
    have same := follows.bindSection bound
    rw [Context.generate_eq, read]
    simp only [executed, loaded, Bool.false_eq_true, if_false, same]
  | case5 ctx state lines reader read after executed loaded next state' bound =>
    have same := follows.bindSection bound
    rw [Context.generate_eq, read]
    simp only [executed, loaded, Bool.false_eq_true, if_false, same]
  | case6 ctx state lines reader read after executed loaded next state' bound ih =>
    have same := follows.bindSection bound
    rw [Context.generate_eq, read, ← ih]
    simp only [executed, loaded, Bool.false_eq_true, if_false, same]

end FieldSource

namespace Context

variable {template : String → Except Error Workbook}

def keeping (ctx : Context) (cache : RegistryCache) : Context := { ctx with registries := cache }

theorem aside_keeping (cache : RegistryCache) : Aside (·.keeping cache) :=
  ⟨fun _ => rfl, fun _ _ => rfl, fun _ _ _ => rfl⟩

theorem bindWith_keeping (registry : Registry) (ctx : Context) (cache : RegistryCache) :
    (ctx.keeping cache).bindWith registry =
      ((ctx.bindWith registry).1, (ctx.bindWith registry).2.keeping cache) := by
  obtain ⟨reader, formFile, mode, workbook, registries⟩ := ctx
  cases workbook with
  | none => rfl
  | some wb =>
    simp only [keeping, bindWith]
    rcases reader.dataSection with ⟨answer, begun⟩
    cases answer with
    | error e => rfl
    | ok s =>
      simp only [bindBody]
      rcases registry.bindRows wb s begun with ⟨answer, after, left⟩
      cases answer <;> rfl

def begin (template : String → Except Error Workbook) (ctx : Context) :
    Except Error Unit × Context :=
  match ctx.reader.functionSection with
  | (.error e, reader) => (.error e, ctx.reading reader)
  | (.ok lines, reader) => (ctx.reading reader).executeLines template lines

theorem begin_of_steps {ctx after : Context} {lines : List String} {reader : Reader}
    {answer : Except Error Unit} (read : ctx.reader.functionSection = (.ok lines, reader))
    (executed : ({ ctx with reader }).executeLines template lines = (answer, after))
    (cache : RegistryCache) :
    (ctx.keeping cache).begin template = (answer, after.keeping cache) := by
  have same : (ctx.keeping cache).reader = ctx.reader := rfl
  have aside := (aside_keeping cache).executeLines template (ctx.reading reader) lines
  rw [begin, same, read]
  exact aside.trans (by rw [reading, executed])

theorem registries_executeLines {ctx after : Context} {lines : List String}
    {answer : Except Error Unit} (executed : ctx.executeLines template lines = (answer, after)) :
    after.registries = ctx.registries := by
  have aside := (aside_keeping ctx.registries).executeLines template ctx lines
  rw [executed] at aside
  exact congrArg (·.2.registries) (executed.symm.trans aside)

structure Reaches (template : String → Except Error Workbook) (ctx : Context) (formFile : String)
    (after : Context) : Prop where
  begun : ctx.begin template = (.ok (), after)
  loaded : after.workbook ≠ none
  form : after.formFile = some formFile

theorem reaches_of_steps {ctx after : Context} {lines : List String} {reader : Reader}
    {formFile : String} (read : ctx.reader.functionSection = (.ok lines, reader))
    (executed : ({ ctx with reader }).executeLines template lines = (.ok (), after))
    (loaded : ¬ after.workbook.isNone = true) (form : after.formFile = some formFile)
    (cache : RegistryCache) :
    Reaches template (ctx.keeping cache) formFile (after.keeping cache) :=
  ⟨begin_of_steps read executed cache, fun none => loaded (Option.isNone_iff_eq_none.mpr none), form⟩

/-- A report run that gives each form file one answer, by the form files of the data sections that
it reaches. -/
inductive Generates (template : String → Except Error Workbook)
    (answers : String → Option (Except Error (List Field))) :
    Context → List String → Except Error (Option Workbook) → Prop
  | refused {ctx after : Context} {e : Error} (begun : ctx.begin template = (.error e, after)) :
      Generates template answers ctx [] (.error e)
  | bare {ctx after : Context} (begun : ctx.begin template = (.ok (), after))
      (bare : after.workbook = none) :
      Generates template answers ctx [] (.ok none)
  | formless {ctx after : Context} (begun : ctx.begin template = (.ok (), after))
      (loaded : after.workbook ≠ none) (formless : after.formFile = none) :
      Generates template answers ctx [] (.error .noForm)
  | unloaded {ctx after : Context} {formFile : String} {e : Error}
      (reaches : Reaches template ctx formFile after)
      (failed : answers formFile = some (.error e)) :
      Generates template answers ctx [formFile] (.error e)
  | unbound {ctx after next : Context} {formFile : String} {fields : List Field} {e : Error}
      (reaches : Reaches template ctx formFile after)
      (declared : answers formFile = some (.ok fields))
      (failed : after.bindWith (.ofFields fields) = (.error e, next)) :
      Generates template answers ctx [formFile] (.error e)
  | last {ctx after next : Context} {formFile : String} {fields : List Field}
      (reaches : Reaches template ctx formFile after)
      (declared : answers formFile = some (.ok fields))
      (bound : after.bindWith (.ofFields fields) = (.ok false, next)) :
      Generates template answers ctx [formFile] (.ok next.workbook)
  | another {ctx after next : Context} {formFile : String} {fields : List Field}
      {reached : List String} {answer : Except Error (Option Workbook)}
      (reaches : Reaches template ctx formFile after)
      (declared : answers formFile = some (.ok fields))
      (bound : after.bindWith (.ofFields fields) = (.ok true, next))
      (onward : Generates template answers next reached answer) :
      Generates template answers ctx (formFile :: reached) answer

variable {σ : Type} {supplies : Supplies σ} {ctx : Context} {kept kept' : List FormLoad × σ}
  {formFile : String} {more : Except Error Bool} {next : Context}

theorem bindSection_unloaded {forms : FieldSource σ} {state state' : σ} {cache : RegistryCache}
    {e : Error} (form : ctx.formFile = some formFile)
    (given : ctx.registries.getOrLoad forms formFile state = (.error e, cache, state')) :
    ctx.bindSection forms state = (.error e, ctx.keeping cache, state') := by
  obtain ⟨reader, chosen, mode, workbook, registries⟩ := ctx
  cases form
  simp only [bindSection, given, keeping]

theorem bindSection_loaded {forms : FieldSource σ} {state state' : σ} {cache : RegistryCache}
    {registry : Registry} (form : ctx.formFile = some formFile)
    (given : ctx.registries.getOrLoad forms formFile state = (.ok registry, cache, state')) :
    ctx.bindSection forms state =
      ((ctx.bindWith registry).1, (ctx.bindWith registry).2.keeping cache, state') := by
  have aside := bindWith_keeping registry ctx cache
  obtain ⟨reader, chosen, mode, workbook, registries⟩ := ctx
  cases form
  rw [keeping] at aside
  simp only [bindSection, given, aside]

theorem bindSection_formless {forms : FieldSource σ} {state : σ} (formless : ctx.formFile = none) :
    ctx.bindSection forms state = (.error .noForm, ctx, state) := by
  rw [bindSection, formless]

theorem form_of_bindSection {forms : FieldSource σ} {state state' : σ} {goesOn : Bool}
    (bound : ctx.bindSection forms state = (.ok goesOn, next, state')) :
    ∃ formFile, ctx.formFile = some formFile := by
  cases form : ctx.formFile with
  | none => cases (bindSection_formless form).symm.trans bound
  | some formFile => exact ⟨formFile, rfl⟩

theorem bindSection_recorded (keeps : ctx.registries.Keeps kept.1)
    (form : ctx.formFile = some formFile) (bound : ctx.bindSection supplies.forms.recorded kept =
      (more, next, kept')) :
    (∃ e, FormLoad.Asked kept.1 formFile (.error e) kept'.1 ∧ more = .error e) ∨
      ∃ fields, FormLoad.Asked kept.1 formFile (.ok fields) kept'.1 ∧
        (ctx.keeping .empty).bindWith (.ofFields fields) = (more, next.keeping .empty) ∧
        next.registries.Keeps kept'.1 := by
  obtain ⟨answer, cache, later, asked, given, held⟩ := keeps.getOrLoad supplies.forms formFile
  cases answer with
  | error e =>
    rw [bindSection_unloaded form given] at bound
    cases bound
    exact .inl ⟨e, asked, rfl⟩
  | ok fields =>
    rw [bindSection_loaded form given] at bound
    cases bound
    exact .inr ⟨fields, asked, bindWith_keeping _ _ _, held fields rfl⟩

/-- What a run makes of the calls before it: it gives every form file its first answer, and adds the
form files that it is the first to reach. -/
structure Runs (template : String → Except Error Workbook) (ctx : Context) (log : List FormLoad)
    (answer : Except Error (Option Workbook)) (later : List FormLoad) (reached : List String) :
    Prop where
  distinct : (FormLoad.names later).Nodup
  names : FormLoad.names later =
    FormLoad.names log ++ (reached.removeAll (FormLoad.names log)).eraseDups
  before : log <+: later
  generates : Generates template (FormLoad.first? later) ctx reached answer

namespace Runs

variable {log midway later : List FormLoad} {answer : Except Error (Option Workbook)}
  {reached : List String} {given : Except Error (List Field)} {fields : List Field}
  {after : Context}

theorem silent (distinct : (FormLoad.names log).Nodup)
    (generates : Generates template (FormLoad.first? log) ctx [] answer) :
    Runs template ctx log answer log [] :=
  ⟨distinct, by simp [List.removeAll], List.prefix_rfl, generates⟩

theorem ending (distinct : (FormLoad.names log).Nodup)
    (asked : FormLoad.Asked log formFile given later)
    (generates : Generates template (FormLoad.first? later) ctx [formFile] answer) :
    Runs template ctx log answer later [formFile] := by
  refine ⟨asked.nodup distinct, ?_, asked.isPrefix, generates⟩
  rw [← asked.names_append []]
  simp [List.removeAll]

theorem another (reaches : Reaches template ctx formFile after)
    (asked : FormLoad.Asked log formFile (.ok fields) midway)
    (bound : after.bindWith (.ofFields fields) = (.ok true, next))
    (onward : Runs template next midway answer later reached) :
    Runs template ctx log answer later (formFile :: reached) := by
  refine ⟨onward.distinct, ?_, asked.isPrefix.trans onward.before, ?_⟩
  · rw [onward.names, asked.names_append]
  · exact .another reaches (FormLoad.first?_of_prefix onward.before asked.first) bound
      onward.generates

end Runs

theorem exists_runs (supplies : Supplies σ) (ctx : Context) (kept : List FormLoad × σ)
    (keeps : ctx.registries.Keeps kept.1) (distinct : (FormLoad.names kept.1).Nodup) :
    ∃ reached, Runs supplies.template (ctx.keeping .empty) kept.1
      (ctx.generate supplies.recorded kept).1 (ctx.generate supplies.recorded kept).2.1
      reached := by
  -- On the turns of the run; what carries it is that the cache keeps what the calls have given.
  fun_induction Context.generate supplies.recorded ctx kept with
  | case1 ctx kept e reader read =>
    have begun : (ctx.keeping .empty).begin supplies.template =
        (.error e, (ctx.keeping .empty).reading reader) := by
      rw [begin, keeping, read]
    exact ⟨[], .silent distinct (.refused begun)⟩
  | case2 ctx kept lines reader read e after executed =>
    exact ⟨[], .silent distinct (.refused (begin_of_steps read executed .empty))⟩
  | case3 ctx kept lines reader read after executed bare =>
    exact ⟨[], .silent distinct
      (.bare (begin_of_steps read executed .empty) (Option.isNone_iff_eq_none.mp bare))⟩
  | case4 ctx kept lines reader read after executed loaded e next kept' bound =>
    cases form : after.formFile with
    | none =>
      have there : after.workbook ≠ none := fun none => loaded (Option.isNone_iff_eq_none.mpr none)
      cases (bindSection_formless form).symm.trans bound
      exact ⟨[], .silent distinct (.formless (begin_of_steps read executed .empty) there form)⟩
    | some formFile =>
      have reaches := reaches_of_steps read executed loaded form .empty
      rw [← registries_executeLines executed] at keeps
      rcases bindSection_recorded keeps form bound with ⟨e', asked, same⟩ | ⟨fields, asked, bound, -⟩
      · cases same
        exact ⟨[formFile], .ending distinct asked (.unloaded reaches asked.first)⟩
      · exact ⟨[formFile], .ending distinct asked (.unbound reaches asked.first bound)⟩
  | case5 ctx kept lines reader read after executed loaded next kept' bound =>
    obtain ⟨formFile, form⟩ := form_of_bindSection bound
    have reaches := reaches_of_steps read executed loaded form .empty
    rw [← registries_executeLines executed] at keeps
    rcases bindSection_recorded keeps form bound with ⟨e, -, same⟩ | ⟨fields, asked, bound, -⟩
    · cases same
    · have generates : Generates supplies.template (FormLoad.first? kept'.1) (ctx.keeping .empty)
          [formFile] (.ok (next.keeping .empty).workbook) := .last reaches asked.first bound
      exact ⟨[formFile], .ending distinct asked generates⟩
  | case6 ctx kept lines reader read after executed loaded next kept' bound ih =>
    obtain ⟨formFile, form⟩ := form_of_bindSection bound
    have reaches := reaches_of_steps read executed loaded form .empty
    rw [← registries_executeLines executed] at keeps
    rcases bindSection_recorded keeps form bound with ⟨e, -, same⟩ | ⟨fields, asked, bound, held⟩
    · cases same
    · obtain ⟨reached, onward⟩ := ih held (asked.nodup distinct)
      exact ⟨formFile :: reached, .another reaches asked bound onward⟩

theorem executeLine_formLine (template : String → Except Error Workbook) (ctx : Context)
    {form mode : String} (named : form ≠ "") (single : ',' ∉ form.toList)
    (last : ',' ∉ mode.toList) (bare : formExtension.isSuffixOf form.toList = false) :
    ctx.executeLine template (Command.formLine (form ++ ".xml") mode) =
      ctx.executeLine template (Command.formLine form mode) := by
  have extended : form ++ ".xml" ≠ "" := by simp
  have whole : ',' ∉ (form ++ ".xml").toList := by simp [single]
  rw [executeLine, executeLine, Command.parse_formLine named single last,
    Command.parse_formLine extended whole last, formFileName_extended, formFileName_of_bare bare]

end Context

variable {σ : Type}

theorem exists_calls (supplies : Supplies σ) (reader : Reader) (state : σ) :
    ∃ calls reached, generateReport supplies.recorded reader ([], state) =
        ((generateReport supplies reader state).1, calls,
          (generateReport supplies reader state).2) ∧
      (FormLoad.names calls).Nodup ∧ FormLoad.names calls = reached.eraseDups ∧
      Context.Generates supplies.template (FormLoad.first? calls) { reader } reached
        (generateReport supplies reader state).1 := by
  have same : generateReport supplies reader state =
      ((generateReport supplies.recorded reader ([], state)).1,
        (generateReport supplies.recorded reader ([], state)).2.2) :=
    supplies.forms.follows_recorded.generate { reader } ([], state)
  obtain ⟨reached, runs⟩ := Context.exists_runs supplies { reader } ([], state)
    (fun _ => rfl) List.nodup_nil
  rw [same]
  refine ⟨_, reached, rfl, runs.distinct, runs.names.trans ?_, runs.generates⟩
  simp [FormLoad.names, List.removeAll]

/-- A run calls its source of forms once for each form file, in the order in which its data sections
are first to reach them, and binds all the sections of a form file with the fields of that call. A
form is named with or without the extension. Of the requests to one cache, those for a form file
that has been loaded give its registry again, and only the others go to the source; a name declared
several times stands for its last field. -/
theorem generateReport_loads_forms_once (supplies : Supplies σ) (reader : Reader) (state : σ) :
    (∃ calls reached, generateReport supplies.recorded reader ([], state) =
        ((generateReport supplies reader state).1, calls,
          (generateReport supplies reader state).2) ∧
      (FormLoad.names calls).Nodup ∧ FormLoad.names calls = reached.eraseDups ∧
      Context.Generates supplies.template (FormLoad.first? calls) { reader } reached
        (generateReport supplies reader state).1) ∧
    (∀ (ctx : Context) (form mode : String), form ≠ "" → ',' ∉ form.toList → ',' ∉ mode.toList →
      formExtension.isSuffixOf form.toList = false →
      ctx.executeLine supplies.template (Command.formLine (form ++ ".xml") mode) =
        ctx.executeLine supplies.template (Command.formLine form mode)) ∧
    (∀ (asked : List (FieldSource σ × String)) (state : σ) (source : FieldSource σ)
      (formFile : String), let before := RegistryCache.Requests.made asked state
      (∀ registry, (formFile, .ok registry) ∈ before.answered →
        before.cache.getOrLoad source formFile before.state =
          (.ok registry, before.cache, before.state)) ∧
      ((∀ registry, (formFile, .ok registry) ∉ before.answered) →
        (∀ e after, source.load formFile before.state = (.error e, after) →
          before.cache.getOrLoad source formFile before.state =
            (.error e, before.cache, after)) ∧
        ∀ fields after, source.load formFile before.state = (.ok fields, after) →
          before.cache.getOrLoad source formFile before.state =
            (.ok (.ofFields fields), before.cache.adding formFile (.ofFields fields), after))) ∧
    ∀ (fields : List Field) (name : String),
      (Registry.ofFields fields).get? name =
        (fields.filter fun field => field.name = name).getLast? ∧
      (Registry.ofFields fields).size = (fields.map (·.name)).dedup.length := by
  refine ⟨exists_calls supplies reader state, ?_, ?_, ?_⟩
  · intro ctx form mode named single last bare
    exact ctx.executeLine_formLine supplies.template named single last bare
  · intro asked state source formFile before
    have settled : before.Settled := RegistryCache.Requests.settled_made asked state
    refine ⟨?_, ?_⟩
    · intro registry known
      exact RegistryCache.getOrLoad_known ((settled formFile registry).mpr known)
    · intro never
      have unknown := settled.unknown_iff.mpr never
      exact ⟨fun _ _ failed => RegistryCache.getOrLoad_failed unknown failed,
        fun _ _ loaded => RegistryCache.getOrLoad_loaded unknown loaded⟩
  · intro fields name
    exact ⟨Registry.get?_ofFields fields name, Registry.size_ofFields fields⟩

def FieldSource.wavering : FieldSource Nat where
  load formFile calls :=
    if calls = 0 then (.error (.formMissing formFile), 1)
    else (.ok [⟨"total", "A1", ""⟩, ⟨"total", if calls = 1 then "B1" else "C1", ""⟩], calls + 1)

/-- The second form goes between two data sections of the first one, which keeps the fields that it
was declared with at first. -/
theorem generateReport_loads_forms_once_of_wavering :
    let supplies : Supplies Nat := ⟨fun _ => .ok { sheets := [{ name := "S" }] }, .wavering⟩
    let text := "<start>\nVrComout=XSFN NAME=T\nVrSetForm=form,0\n<end>\ntotal\n1\n" ++
      "<start>\nVrSetForm=other.xml,0\n<end>\ntotal\n2\n" ++
      "<start>\nVrSetForm=form.xml,0\n<end>\ntotal\n3\n"
    let filled : Workbook := {
      sheets := [{ name := "S", cells := .ofList [(⟨0, 1⟩, .text "3"), (⟨0, 2⟩, .text "2")] }] }
    let failed := RegistryCache.Requests.made [(.wavering, "form.xml")] 0
    let loaded := failed.ask (.wavering, "form.xml")
    let registry := Registry.ofFields [⟨"total", "A1", ""⟩, ⟨"total", "B1", ""⟩]
    (∃ calls reached, generateReport supplies.recorded (Reader.ofText text) ([], 1) =
        (.ok (some filled), calls, 3) ∧
      FormLoad.names calls = ["form.xml", "other.xml"] ∧
      reached.eraseDups = ["form.xml", "other.xml"] ∧
      Context.Generates supplies.template (FormLoad.first? calls) { reader := Reader.ofText text }
        reached (.ok (some filled))) ∧
    failed.cache.getOrLoad .wavering "form.xml" failed.state =
        (.ok registry, failed.cache.adding "form.xml" registry, 2) ∧
      loaded.cache.getOrLoad .wavering "form.xml" loaded.state =
        (.ok registry, loaded.cache, loaded.state) ∧
      registry.get? "total" = some ⟨"total", "B1", ""⟩ ∧ registry.size = 1 ∧
      ({ reader := { lines := [] } } : Context).executeLine supplies.template
          (Command.formLine ("form" ++ ".xml") "1") =
        ({ reader := { lines := [] } } : Context).executeLine supplies.template
          (Command.formLine "form" "1") := by
  intro supplies text filled failed loaded registry
  have filledOnce : generateReport supplies (Reader.ofText text) 1 = (.ok (some filled), 3) := by
    decide +kernel
  have asked : FormLoad.names (generateReport supplies.recorded (Reader.ofText text) ([], 1)).2.1 =
      ["form.xml", "other.xml"] := by
    decide +kernel
  obtain ⟨runs, forms, requests, registries⟩ :=
    generateReport_loads_forms_once supplies (Reader.ofText text) 1
  obtain ⟨last, size⟩ := registries [⟨"total", "A1", ""⟩, ⟨"total", "B1", ""⟩] "total"
  refine ⟨?_, ?_, ?_, last, size,
    forms _ "form" "1" (by decide) (by decide) (by decide) (by decide)⟩
  · obtain ⟨calls, reached, recorded, -, names, generates⟩ := runs
    rw [recorded] at asked
    rw [filledOnce] at recorded generates
    exact ⟨calls, reached, recorded, asked, names ▸ asked, generates⟩
  · have never : ∀ registry, ("form.xml", .ok registry) ∉ failed.answered := by
      intro registry member
      cases List.mem_singleton.mp member
    exact ((requests _ 0 .wavering "form.xml").2 never).2 _ _ rfl
  · have answered : ("form.xml", .ok registry) ∈ loaded.answered :=
      List.mem_cons_of_mem _ List.mem_cons_self
    exact (requests [(.wavering, "form.xml"), (.wavering, "form.xml")] 0 .wavering "form.xml").1
      registry answered

end ReportSheets
