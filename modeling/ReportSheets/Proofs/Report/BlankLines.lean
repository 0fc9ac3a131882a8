import ReportSheets.Proofs.Data.BlankLines
import ReportSheets.Proofs.Report.Forms

namespace ReportSheets

variable {r r' : Reader} {behind behind' : Nat}

namespace DataSection.Gives

variable {s s' : DataSection} {rows : List DataRow} {ahead ahead' : List String}

theorem bindRows_alike (registry : Registry) (wb : Workbook)
    (gives : s.Gives Csv.tokenize r rows behind ahead)
    (gives' : s'.Gives Csv.tokenize r' rows behind' ahead') :
    (∃ e after left left', registry.bindRows wb s r = (.error e, after, left) ∧
      registry.bindRows wb s' r' = (.error e, after, left')) ∨
    ∃ t t' after left left', registry.bindRows wb s r = (.ok t, after, left) ∧
      registry.bindRows wb s' r' = (.ok t', after, left') ∧
      t.Gives Csv.tokenize left [] behind ahead ∧ t'.Gives Csv.tokenize left' [] behind' ahead' := by
  -- The readers go on row by row together, and the workbook is the same after each.
  induction rows generalizing wb r r' with
  | nil =>
    obtain ⟨left, step, stands⟩ := gives.next_ended Csv.Tokenizer.total_tokenize
    obtain ⟨left', step', stands'⟩ := gives'.next_ended Csv.Tokenizer.total_tokenize
    exact .inr ⟨_, _, wb, left, left', Registry.bindRows_ended step, Registry.bindRows_ended step',
      .ended stands rfl, .ended stands' rfl⟩
  | cons row rows ih =>
    obtain ⟨next, step, later⟩ := gives.next_row Csv.Tokenizer.total_tokenize
    obtain ⟨next', step', later'⟩ := gives'.next_row Csv.Tokenizer.total_tokenize
    rcases bound : registry.bindRow wb row with ⟨answer, after⟩
    cases answer with
    | error e =>
      exact .inl ⟨e, after, next, next', Registry.bindRows_refused step bound,
        Registry.bindRows_refused step' bound⟩
    | ok written =>
      rw [Registry.bindRows_bound step bound, Registry.bindRows_bound step' bound]
      exact ih after later later'

end DataSection.Gives

namespace Context

variable {lines lines' : List String}

/-- Two outcomes of binding are alike: the answer is the same, and so is the context but for its
reader, which has the section behind it when all went well. -/
inductive BindsAlike (behind behind' : Nat) (ahead ahead' : List String) :
    Except Error Bool × Context → Except Error Bool × Context → Prop
  | failed {e : Error} (next : Context) (left left' : Reader) :
      BindsAlike behind behind' ahead ahead' (.error e, next.reading left)
        (.error e, next.reading left')
  | bound {more : Bool} (next : Context) {left left' : Reader}
      (stands : left.StandsAt behind ahead) (stands' : left'.StandsAt behind' ahead') :
      BindsAlike behind behind' ahead ahead' (.ok more, next.reading left)
        (.ok more, next.reading left')

theorem bindWith_alike (registry : Registry) (ctx : Context) (stands : r.StandsAt behind lines)
    (stands' : r'.StandsAt behind' lines')
    (rows : rowsOf Csv.tokenize (dataPart lines') = rowsOf Csv.tokenize (dataPart lines))
    (follows : (afterData lines').isEmpty = (afterData lines).isEmpty) :
    BindsAlike (behind + (dataPart lines).length) (behind' + (dataPart lines').length)
      (afterData lines) (afterData lines') ((ctx.reading r).bindWith registry)
      ((ctx.reading r').bindWith registry) := by
  obtain ⟨reader, formFile, mode, workbook, registries⟩ := ctx
  obtain ⟨s, begun, opened, -, gives⟩ := stands.dataSectionBy Csv.Tokenizer.total_tokenize
  obtain ⟨s', begun', opened', -, gives'⟩ := stands'.dataSectionBy Csv.Tokenizer.total_tokenize
  rw [rows] at gives'
  cases workbook with
  | none => exact .failed ⟨reader, formFile, mode, none, registries⟩ r r'
  | some wb =>
    simp only [bindWith, reading, Reader.dataSection, opened, opened', bindBody]
    rcases gives.bindRows_alike registry wb gives' with
      ⟨e, after, left, left', failed, failed'⟩ |
        ⟨t, t', after, left, left', done, done', more, more'⟩
    · rw [failed, failed']
      exact .failed ⟨reader, formFile, mode, some after, registries⟩ left left'
    · obtain ⟨last, finished, stands⟩ := more.finish
      obtain ⟨last', finished', stands'⟩ := more'.finish
      rw [done, done']
      simp only [finished, finished', follows]
      exact .bound ⟨reader, formFile, mode, some after, registries⟩ stands stands'

variable {σ : Type}

theorem BindsAlike.keeping {ahead ahead' : List String} {one other : Except Error Bool × Context}
    (alike : BindsAlike behind behind' ahead ahead' one other) (cache : RegistryCache) :
    BindsAlike behind behind' ahead ahead' (one.1, one.2.keeping cache)
      (other.1, other.2.keeping cache) := by
  cases alike with
  | failed next left left' => exact .failed (next.keeping cache) left left'
  | bound next stands stands' => exact .bound (next.keeping cache) stands stands'

theorem bindSection_alike (forms : FieldSource σ) (ctx : Context) (state : σ)
    (stands : r.StandsAt behind lines) (stands' : r'.StandsAt behind' lines')
    (rows : rowsOf Csv.tokenize (dataPart lines') = rowsOf Csv.tokenize (dataPart lines))
    (follows : (afterData lines').isEmpty = (afterData lines).isEmpty) :
    ∃ one other state', (ctx.reading r).bindSection forms state = (one.1, one.2, state') ∧
      (ctx.reading r').bindSection forms state = (other.1, other.2, state') ∧
      BindsAlike (behind + (dataPart lines).length) (behind' + (dataPart lines').length)
        (afterData lines) (afterData lines') one other := by
  cases form : ctx.formFile with
  | none =>
    have formless (q : Reader) : (ctx.reading q).formFile = none := form
    exact ⟨_, _, _, bindSection_formless (formless r), bindSection_formless (formless r'),
      .failed ctx r r'⟩
  | some formFile =>
    have chosen (q : Reader) : (ctx.reading q).formFile = some formFile := form
    rcases given : ctx.registries.getOrLoad forms formFile state with ⟨answer, cache, state'⟩
    have asked (q : Reader) :
        (ctx.reading q).registries.getOrLoad forms formFile state = (answer, cache, state') := given
    cases answer with
    | error e =>
      exact ⟨_, _, _, bindSection_unloaded (chosen r) (asked r),
        bindSection_unloaded (chosen r') (asked r'), .failed (ctx.keeping cache) r r'⟩
    | ok registry =>
      have alike := (bindWith_alike registry ctx stands stands' rows follows).keeping cache
      have bound (q : Reader) : (ctx.reading q).bindSection forms state =
          (((ctx.reading q).bindWith registry).1,
            ((ctx.reading q).bindWith registry).2.keeping cache, state') :=
        bindSection_loaded (chosen q) (asked q)
      exact ⟨(((ctx.reading r).bindWith registry).1, _),
        (((ctx.reading r').bindWith registry).1, _), state', bound r, bound r', alike⟩

theorem bindAll_without_columns (registry : Registry) (wb : Workbook) (count : Nat) :
    registry.bindAll wb (List.replicate count ⟨[]⟩) = .ok wb := by
  induction count with
  | zero => rfl
  | succ count ih =>
    rw [List.replicate_succ, Registry.bindAll]
    exact ih

/-- When the rows have no columns, what is there to bind them with is left as it is. -/
theorem bindSection_without_columns {forms : FieldSource σ} {ctx : Context} {state state' : σ}
    {formFile : String} {registry : Registry} {cache : RegistryCache} {count : Nat}
    (chosen : ctx.formFile = some formFile)
    (loads : ctx.registries.getOrLoad forms formFile state = (.ok registry, cache, state'))
    (loaded : ctx.workbook ≠ none) (stands : r.StandsAt behind lines)
    (rows : rowsOf Csv.tokenize (dataPart lines) = List.replicate count ⟨[]⟩) :
    ∃ left, (ctx.reading r).bindSection forms state =
        (.ok (!(afterData lines).isEmpty), (ctx.keeping cache).reading left, state') ∧
      left.StandsAt (behind + (dataPart lines).length) (afterData lines) := by
  obtain ⟨reader, form, mode, workbook, registries⟩ := ctx
  obtain ⟨wb, rfl⟩ := Option.ne_none_iff_exists'.mp loaded
  have bound : registry.bindAll wb (rowsOf Csv.tokenize (dataPart lines)) = .ok wb := by
    rw [rows, bindAll_without_columns]
  obtain ⟨left, given, after⟩ :=
    bindWith_ok (reading ⟨reader, form, mode, some wb, registries⟩ r) stands rfl bound
  have whole : (reading ⟨reader, form, mode, some wb, registries⟩ r).bindSection forms state = _ :=
    bindSection_loaded chosen loads
  refine ⟨left, ?_, after⟩
  rw [whole, given]
  rfl

structure SectionAlike (r r' : Reader) (behind behind' : Nat) (ahead : List String) : Prop where
  read : ∀ limit, (r'.performData Csv.tokenize limit).1 = (r.performData Csv.tokenize limit).1
  bind : ∀ {σ : Type} (forms : FieldSource σ) (ctx : Context) (state : σ),
    ∃ one other state', (ctx.reading r).bindSection forms state = (one.1, one.2, state') ∧
      (ctx.reading r').bindSection forms state = (other.1, other.2, state') ∧
      BindsAlike behind behind' ahead ahead one other

/-- The section has lost its header: it is read as so many rows of no columns, and binding them
leaves everything as it is but the reader and the cache. -/
structure HeaderLost (r : Reader) (count behind : Nat) (ahead : List String) : Prop where
  read : ∀ limit, (r.performData Csv.tokenize limit).1 =
    .data [] ((Reader.asked limit (List.replicate count ⟨[]⟩)).map .ok) (.ok (!ahead.isEmpty))
  bind : ∀ {σ : Type} (forms : FieldSource σ) (ctx : Context) (state state' : σ) (formFile : String)
    (registry : Registry) (cache : RegistryCache), ctx.formFile = some formFile →
    ctx.registries.getOrLoad forms formFile state = (.ok registry, cache, state') →
    ctx.workbook ≠ none → ∃ left, (ctx.reading r).bindSection forms state =
        (.ok (!ahead.isEmpty), (ctx.keeping cache).reading left, state') ∧
      left.StandsAt behind ahead

/-- Blank lines put into a data section change neither its header nor its rows, and binding has the
same answer and leaves the same workbook, so long as the header comes first. Where a blank line comes
before it there is no header: every record, the header's too, makes a row of no columns, and nothing
is written. -/
theorem bindSection_of_spaced {data spaced rest : List String} (inserted : Spaced data spaced)
    (inside : startMarker ∉ data) (stops : rest = [] ∨ rest.head? = some startMarker)
    (stands : r.StandsAt behind (data ++ rest)) (stands' : r'.StandsAt behind' (spaced ++ rest)) :
    ((Headed data → Headed spaced) →
      SectionAlike r r' (behind + data.length) (behind' + spaced.length) rest) ∧
    (Headed data → ¬ Headed spaced →
      HeaderLost r' (recordCount data) (behind' + spaced.length) rest ∧
      ∀ limit, (r'.performData Csv.tokenize limit).1 ≠ (r.performData Csv.tokenize limit).1) := by
  obtain ⟨part, after⟩ := parts_append inside stops
  obtain ⟨part', after'⟩ := parts_append (inserted.start_not_mem inside) stops
  have read (limit : Option Nat) := stands.performData Csv.Tokenizer.total_tokenize limit
  have read' (limit : Option Nat) := stands'.performData Csv.Tokenizer.total_tokenize limit
  simp only [part, after] at read
  simp only [part', after'] at read'
  constructor
  · intro named
    obtain ⟨header, rows⟩ := inserted.header_rows_eq named
    refine ⟨?_, ?_⟩
    · intro limit
      obtain ⟨left, given, -⟩ := read limit
      obtain ⟨left', given', -⟩ := read' limit
      rw [given, given', header, rows]
    · intro σ forms ctx state
      have alike := bindSection_alike forms ctx state stands stands' (by rw [part, part', rows])
        (by rw [after, after'])
      rwa [part, part', after, after'] at alike
  · intro headed lost
    have rows := inserted.rowsOf_of_lost_header lost
    refine ⟨⟨?_, ?_⟩, ?_⟩
    · intro limit
      obtain ⟨left', given', -⟩ := read' limit
      rw [given', headerOf_of_not_headed lost, rows]
    · intro σ forms ctx state state' formFile registry cache chosen loads loaded
      have bound := bindSection_without_columns chosen loads loaded stands' (by rw [part', rows])
      rwa [part', after'] at bound
    · intro limit same
      obtain ⟨left, given, -⟩ := read limit
      obtain ⟨left', given', -⟩ := read' limit
      rw [given, given', headerOf_of_not_headed lost] at same
      have header : [] = headerOf Csv.tokenize data := (Reader.Answer.data.inj same).1
      exact headerOf_of_headed headed header.symm

/-- A blank line under the header is passed over, and one above it costs the section its data. -/
theorem bindSection_of_spaced_of_two_lines :
    (Spaced ["a", "1"] ["a", "", "1"] ∧ Headed ["a", "", "1"] ∧
      SectionAlike (.ofText "a\n1\n") (.ofText "a\n\n1\n") 2 3 []) ∧
    Spaced ["a", "1"] ["", "a", "1"] ∧ Headed ["a", "1"] ∧ ¬ Headed ["", "a", "1"] ∧
      HeaderLost (.ofText "\na\n1\n") 2 3 [] := by
  have plain : (Reader.ofText "a\n1\n").StandsAt 0 (["a", "1"] ++ []) :=
    Reader.standsAt_ofText "a\n1\n"
  have under : (Reader.ofText "a\n\n1\n").StandsAt 0 (["a", "", "1"] ++ []) :=
    Reader.standsAt_ofText "a\n\n1\n"
  have above : (Reader.ofText "\na\n1\n").StandsAt 0 (["", "a", "1"] ++ []) :=
    Reader.standsAt_ofText "\na\n1\n"
  have inside : startMarker ∉ ["a", "1"] := by decide
  have named : Headed ["a", "1"] := ⟨_, _, rfl, nofun⟩
  have still : Headed ["a", "", "1"] := ⟨_, _, rfl, nofun⟩
  have lost : ¬ Headed ["", "a", "1"] := not_headed_cons.mpr recordless_empty
  have first : Spaced ["a", "1"] ["a", "", "1"] := .line (.blank recordless_empty (.line .nil))
  have second : Spaced ["a", "1"] ["", "a", "1"] := .blank recordless_empty (.line (.line .nil))
  exact ⟨⟨first, still,
      (bindSection_of_spaced first inside (.inl rfl) plain under).1 fun _ => still⟩,
    second, named, lost,
    ((bindSection_of_spaced second inside (.inl rfl) plain above).2 named lost).1⟩

/-- The same section with an empty line in front, read as a section without header. -/
theorem blank_line_taken_for_header :
    Spaced ["a", "1"] ["", "a", "1"] ∧
      ((Reader.ofText "a\n1\n").performData Csv.tokenize none).1 =
        .data ["a"] [.ok ⟨[("a", "1")]⟩] (.ok false) ∧
      ((Reader.ofText "\na\n1\n").performData Csv.tokenize none).1 =
        .data [] [.ok ⟨[]⟩, .ok ⟨[]⟩] (.ok false) :=
  ⟨.blank recordless_empty (.line (.line .nil)), rfl, rfl⟩

end Context

end ReportSheets
