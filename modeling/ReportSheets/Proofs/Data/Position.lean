import ReportSheets.Proofs.Data.Lines

namespace ReportSheets

namespace Csv.Tokenizer

def Total (tokenize : Tokenizer) : Prop := ∀ line, ∃ record, tokenize line = .ok record

def record (tokenize : Tokenizer) (line : String) : Option (List String) :=
  (tokenize line).toOption.join

theorem Total.eq_ok {tokenize : Tokenizer} (total : tokenize.Total) (line : String) :
    tokenize line = .ok (tokenize.record line) := by
  obtain ⟨values, read⟩ := total line
  rw [record, read]
  rfl

theorem total_tokenize : Total Csv.tokenize := fun _ => ⟨_, rfl⟩

end Csv.Tokenizer

def dataPart (lines : List String) : List String := lines.takeWhile (· != startMarker)

def afterData (lines : List String) : List String := lines.dropWhile (· != startMarker)

@[simp]
theorem dataPart_nil : dataPart [] = [] := rfl

@[simp]
theorem afterData_nil : afterData [] = [] := rfl

@[simp]
theorem dataPart_start (lines : List String) : dataPart (startMarker :: lines) = [] := by
  simp [dataPart]

@[simp]
theorem afterData_start (lines : List String) :
    afterData (startMarker :: lines) = startMarker :: lines := by
  simp [afterData]

theorem dataPart_cons {line : String} (other : line ≠ startMarker) (lines : List String) :
    dataPart (line :: lines) = line :: dataPart lines := by
  simp [dataPart, other]

theorem afterData_cons {line : String} (other : line ≠ startMarker) (lines : List String) :
    afterData (line :: lines) = afterData lines := by
  simp [afterData, other]

theorem dataPart_append_afterData (lines : List String) :
    dataPart lines ++ afterData lines = lines := List.takeWhile_append_dropWhile

theorem start_not_mem_dataPart (lines : List String) : startMarker ∉ dataPart lines := by
  intro member
  have other := List.all_eq_true.mp (List.all_takeWhile (l := lines)) _ member
  simp at other

theorem dataPart_append {data : List String} (inside : startMarker ∉ data) (rest : List String) :
    dataPart (data ++ rest) = data ++ dataPart rest := by
  apply List.takeWhile_append_of_pos
  intro line member
  have other : line ≠ startMarker := fun same => inside (same ▸ member)
  simpa using other

theorem afterData_append {data : List String} (inside : startMarker ∉ data) (rest : List String) :
    afterData (data ++ rest) = afterData rest := by
  apply List.dropWhile_append_of_pos
  intro line member
  have other : line ≠ startMarker := fun same => inside (same ▸ member)
  simpa using other

theorem dataPart_unmarked {data : List String} (inside : startMarker ∉ data) :
    dataPart data = data := by
  have part := dataPart_append inside []
  rwa [dataPart_nil, List.append_nil] at part

theorem afterData_unmarked {data : List String} (inside : startMarker ∉ data) :
    afterData data = [] := by
  have left := afterData_append inside []
  rwa [afterData_nil, List.append_nil] at left

theorem dataPart_append_start {data : List String} (inside : startMarker ∉ data)
    (more : List String) : dataPart (data ++ startMarker :: more) = data := by
  rw [dataPart_append inside, dataPart_start, List.append_nil]

theorem afterData_append_start {data : List String} (inside : startMarker ∉ data)
    (more : List String) : afterData (data ++ startMarker :: more) = startMarker :: more := by
  rw [afterData_append inside, afterData_start]

/-- After the data comes a `<start>` line or nothing. -/
theorem afterData_cases (lines : List String) :
    afterData lines = [] ∨ ∃ more, afterData lines = startMarker :: more := by
  induction lines with
  | nil => exact .inl rfl
  | cons line lines ih =>
    by_cases marker : line = startMarker
    · exact .inr ⟨lines, by rw [marker, afterData_start]⟩
    · rwa [afterData_cons marker]

def headerOf (tokenize : Csv.Tokenizer) : List String → List String
  | [] => []
  | line :: _ => (tokenize.record line).getD []

def rowsUnder (tokenize : Csv.Tokenizer) (header lines : List String) : List DataRow :=
  lines.filterMap fun line => (tokenize.record line).map (DataRow.ofRecord header)

def rowsOf (tokenize : Csv.Tokenizer) (data : List String) : List DataRow :=
  rowsUnder tokenize (headerOf tokenize data) data.tail

namespace Reader

variable {r : Reader} {behind : Nat} {ahead commands : List String} {line : String}

theorem StandsAt.next_nil (stands : r.StandsAt behind []) : r.next = (.ok none, r) := by
  cases stands with
  | free numbered => cases numbered; rfl

theorem StandsAt.next_cons (stands : r.StandsAt behind (line :: ahead)) :
    ∃ raw, r.next = (.ok (some line), ⟨raw, false, behind + 1⟩) ∧
      Numbered (behind + 1) raw ahead := by
  cases stands with
  | free numbered =>
    cases numbered with
    | cons read rest => exact ⟨_, by rw [← read]; rfl, rest⟩
  | held numbered => exact ⟨_, rfl, numbered⟩

theorem commandLines_closed {number : Nat} {raw : List RawLine}
    (numbered : Numbered number raw (commands ++ endMarker :: ahead))
    (inside : endMarker ∉ commands) :
    ∃ rest, commandLines number raw = (.ok commands, ⟨rest, false, number + commands.length + 1⟩) ∧
      Numbered (number + commands.length + 1) rest ahead := by
  induction commands generalizing number raw with
  | nil =>
    cases numbered with
    | cons read rest => exact ⟨_, by simp [commandLines, read], rest⟩
  | cons command commands ih =>
    cases numbered with
    | cons read rest =>
      have other : command ≠ endMarker := fun same => inside (same ▸ List.mem_cons_self)
      obtain ⟨raw, given, numbered⟩ := ih rest fun later => inside (List.mem_cons_of_mem _ later)
      have count : number + 1 + commands.length + 1 = number + (command :: commands).length + 1 := by
        simp only [List.length_cons]; omega
      rw [count] at given numbered
      refine ⟨raw, ?_, numbered⟩
      simp only [commandLines, read, if_neg other, given]
      rfl

theorem commandLines_open {number : Nat} {raw : List RawLine} {lines : List String}
    (numbered : Numbered number raw lines) (unclosed : endMarker ∉ lines) :
    commandLines number raw = (.error .sectionNotClosed, ⟨[], false, number + lines.length⟩) := by
  induction numbered with
  | nil number => rfl
  | @cons number raw lines plain line read rest ih =>
    have other : line ≠ endMarker := fun same => unclosed (same ▸ List.mem_cons_self)
    have given := ih fun later => unclosed (List.mem_cons_of_mem _ later)
    have count : number + 1 + lines.length = number + (line :: lines).length := by
      simp only [List.length_cons]; omega
    rw [count] at given
    simp only [commandLines, read, if_neg other, given]
    rfl

theorem StandsAt.functionSection_nil (stands : r.StandsAt behind []) :
    r.functionSection = (.error .startMissing, r) := by
  simp only [functionSection, stands.next_nil]

theorem StandsAt.functionSection_other (stands : r.StandsAt behind (line :: ahead))
    (other : line ≠ startMarker) :
    ∃ r', r.functionSection = (.error (.startExpected (behind + 1) line), r') ∧
      r'.StandsAt (behind + 1) ahead := by
  obtain ⟨raw, given, numbered⟩ := stands.next_cons
  exact ⟨_, by simp only [functionSection, given, if_neg other], .free numbered⟩

theorem StandsAt.functionSection_closed
    (stands : r.StandsAt behind (startMarker :: (commands ++ endMarker :: ahead)))
    (inside : endMarker ∉ commands) :
    ∃ r', r.functionSection = (.ok commands, r') ∧
      r'.StandsAt (behind + commands.length + 2) ahead := by
  obtain ⟨raw, given, numbered⟩ := stands.next_cons
  obtain ⟨rest, read, left⟩ := commandLines_closed numbered inside
  have count : behind + 1 + commands.length + 1 = behind + commands.length + 2 := by omega
  rw [count] at read left
  exact ⟨_, by simp only [functionSection, given, if_true, read], .free left⟩

theorem StandsAt.functionSection_open (stands : r.StandsAt behind (startMarker :: ahead))
    (unclosed : endMarker ∉ ahead) :
    ∃ r', r.functionSection = (.error .sectionNotClosed, r') ∧
      r'.StandsAt (behind + ahead.length + 1) [] := by
  obtain ⟨raw, given, numbered⟩ := stands.next_cons
  have read := commandLines_open numbered unclosed
  have count : behind + 1 + ahead.length = behind + ahead.length + 1 := by omega
  rw [count] at read
  exact ⟨_, by simp only [functionSection, given, if_true, read], .free (.nil _)⟩

end Reader

namespace DataSection

/-- The section, read by the reader, gives these rows and then leaves the reader at the place. -/
inductive Gives (tokenize : Csv.Tokenizer) :
    DataSection → Reader → List DataRow → Nat → List String → Prop
  | reading {header lines ahead : List String} {number behind : Nat} {raw : List RawLine}
      {rows : List DataRow} (numbered : Reader.Numbered number raw lines)
      (given : rowsUnder tokenize header (dataPart lines) = rows)
      (passed : number + (dataPart lines).length = behind) (left : afterData lines = ahead) :
      Gives tokenize ⟨header, none⟩ ⟨raw, false, number⟩ rows behind ahead
  | ended {header ahead : List String} {r : Reader} {behind : Nat} {more : Bool}
      (stands : r.StandsAt behind ahead) (follows : more = !ahead.isEmpty) :
      Gives tokenize ⟨header, some more⟩ r [] behind ahead

end DataSection

namespace Reader

variable {tokenize : Csv.Tokenizer}

theorem nextRowBy_row (total : tokenize.Total) {header lines : List String} {number : Nat}
    {raw : List RawLine} {row : DataRow} {rows : List DataRow}
    (numbered : Numbered number raw lines)
    (given : rowsUnder tokenize header (dataPart lines) = row :: rows) :
    ∃ r, nextRowBy tokenize header number raw = (.row row, r) ∧
      DataSection.Gives tokenize ⟨header, none⟩ r rows (number + (dataPart lines).length)
        (afterData lines) := by
  induction numbered with
  | nil number => simp [rowsUnder] at given
  | @cons number raw lines plain line read rest ih =>
    by_cases marker : line = startMarker
    · rw [marker, dataPart_start] at given
      simp [rowsUnder] at given
    · have count : number + 1 + (dataPart lines).length =
          number + (dataPart (line :: lines)).length := by
        rw [dataPart_cons marker, List.length_cons]; omega
      rw [dataPart_cons marker] at given
      rw [afterData_cons marker, ← count]
      cases record : tokenize.record line with
      | none =>
        rw [rowsUnder, List.filterMap_cons, record] at given
        obtain ⟨r, step, gives⟩ := ih given
        refine ⟨r, ?_, gives⟩
        simp only [nextRowBy, read, if_neg marker, total.eq_ok, record, step]
      | some values =>
        rw [rowsUnder, List.filterMap_cons, record] at given
        simp only [Option.map_some, List.cons.injEq] at given
        refine ⟨⟨raw, false, number + 1⟩, ?_, .reading rest given.2 rfl rfl⟩
        simp only [nextRowBy, read, if_neg marker, total.eq_ok, record, given.1]

theorem nextRowBy_ended (total : tokenize.Total) {header lines : List String} {number : Nat}
    {raw : List RawLine} (numbered : Numbered number raw lines)
    (given : rowsUnder tokenize header (dataPart lines) = []) :
    ∃ r, nextRowBy tokenize header number raw = (.ended (!(afterData lines).isEmpty), r) ∧
      r.StandsAt (number + (dataPart lines).length) (afterData lines) := by
  induction numbered with
  | nil number => exact ⟨_, rfl, .free (.nil _)⟩
  | @cons number raw lines plain line read rest ih =>
    by_cases marker : line = startMarker
    · refine ⟨⟨raw, true, number + 1⟩, by simp [nextRowBy, read, marker], ?_⟩
      rw [marker, dataPart_start, afterData_start]
      exact .held rest
    · have count : number + 1 + (dataPart lines).length =
          number + (dataPart (line :: lines)).length := by
        rw [dataPart_cons marker, List.length_cons]; omega
      rw [dataPart_cons marker] at given
      rw [afterData_cons marker, ← count]
      cases record : tokenize.record line with
      | none =>
        rw [rowsUnder, List.filterMap_cons, record] at given
        obtain ⟨r, step, stands⟩ := ih given
        refine ⟨r, ?_, stands⟩
        simp only [nextRowBy, read, if_neg marker, total.eq_ok, record, step]
      | some values =>
        rw [rowsUnder, List.filterMap_cons, record] at given
        simp at given

theorem skipRows_numbered {number : Nat} {raw : List RawLine} {lines : List String}
    (numbered : Numbered number raw lines) :
    ∃ r, skipRows number raw = (.ok (!(afterData lines).isEmpty), r) ∧
      r.StandsAt (number + (dataPart lines).length) (afterData lines) := by
  induction numbered with
  | nil number => exact ⟨_, rfl, .free (.nil _)⟩
  | @cons number raw lines plain line read rest ih =>
    by_cases marker : line = startMarker
    · refine ⟨⟨raw, true, number + 1⟩, by simp [skipRows, read, marker], ?_⟩
      rw [marker, dataPart_start, afterData_start]
      exact .held rest
    · obtain ⟨r, step, stands⟩ := ih
      have count : number + 1 + (dataPart lines).length =
          number + (dataPart (line :: lines)).length := by
        rw [dataPart_cons marker, List.length_cons]; omega
      rw [afterData_cons marker, ← count]
      exact ⟨r, by simp only [skipRows, read, if_neg marker, step], stands⟩

theorem StandsAt.dataSectionBy (total : tokenize.Total) {r : Reader} {behind : Nat}
    {lines : List String} (stands : r.StandsAt behind lines) :
    ∃ s r', r.dataSectionBy tokenize = (.ok s, r') ∧
      s.header = headerOf tokenize (dataPart lines) ∧
      s.Gives tokenize r' (rowsOf tokenize (dataPart lines)) (behind + (dataPart lines).length)
        (afterData lines) := by
  cases lines with
  | nil =>
    refine ⟨⟨[], some false⟩, r, ?_, rfl, .ended stands rfl⟩
    simp only [Reader.dataSectionBy, stands.next_nil]
  | cons line lines =>
    obtain ⟨raw, given, numbered⟩ := stands.next_cons
    by_cases marker : line = startMarker
    · subst marker
      refine ⟨⟨[], some true⟩, ⟨raw, true, behind + 1⟩, ?_, by simp [headerOf], ?_⟩
      · simp only [Reader.dataSectionBy, given, if_true]
      · rw [dataPart_start, afterData_start]
        exact .ended (.held numbered) rfl
    · refine ⟨⟨(tokenize.record line).getD [], none⟩, ⟨raw, false, behind + 1⟩, ?_, ?_, ?_⟩
      · simp only [Reader.dataSectionBy, given, if_neg marker, total.eq_ok]
      · rw [dataPart_cons marker, headerOf]
      · rw [dataPart_cons marker, afterData_cons marker]
        exact .reading numbered rfl (by rw [List.length_cons]; omega) rfl

end Reader

namespace DataSection.Gives

variable {tokenize : Csv.Tokenizer} {s : DataSection} {r : Reader} {row : DataRow}
  {rows : List DataRow} {behind : Nat} {ahead : List String}

theorem next_row (total : tokenize.Total) (gives : s.Gives tokenize r (row :: rows) behind ahead) :
    ∃ r', s.nextBy tokenize r = (some (.ok row), s, r') ∧ s.Gives tokenize r' rows behind ahead := by
  cases gives with
  | reading numbered given passed left =>
    obtain ⟨r', step, gives⟩ := Reader.nextRowBy_row total numbered given
    rw [passed, left] at gives
    exact ⟨r', by simp only [nextBy, Bool.false_eq_true, if_false, step], gives⟩

theorem next_ended (total : tokenize.Total) (gives : s.Gives tokenize r [] behind ahead) :
    ∃ r', s.nextBy tokenize r = (none, ⟨s.header, some (!ahead.isEmpty)⟩, r') ∧
      r'.StandsAt behind ahead := by
  cases gives with
  | reading numbered given passed left =>
    obtain ⟨r', step, stands⟩ := Reader.nextRowBy_ended total numbered given
    rw [left] at step stands
    rw [passed] at stands
    exact ⟨r', by simp only [nextBy, Bool.false_eq_true, if_false, step], stands⟩
  | ended stands follows => exact ⟨r, by simp only [nextBy, follows], stands⟩

theorem finish (gives : s.Gives tokenize r rows behind ahead) :
    ∃ r', s.finish r = (.ok (!ahead.isEmpty), r') ∧ r'.StandsAt behind ahead := by
  cases gives with
  | reading numbered given passed left =>
    obtain ⟨r', step, stands⟩ := Reader.skipRows_numbered numbered
    rw [left] at step stands
    rw [passed] at stands
    exact ⟨r', by simp only [DataSection.finish, Bool.false_eq_true, if_false, step], stands⟩
  | ended stands follows => exact ⟨r, by simp only [DataSection.finish, follows], stands⟩

theorem take (total : tokenize.Total) (count : Nat)
    (gives : s.Gives tokenize r rows behind ahead) :
    ∃ s' r', takeBy tokenize count s r = ((rows.take count).map .ok, s', r') ∧
      s'.Gives tokenize r' (rows.drop count) behind ahead := by
  induction count generalizing r rows with
  | zero => exact ⟨s, r, rfl, gives⟩
  | succ count ih =>
    cases rows with
    | nil =>
      obtain ⟨r', step, stands⟩ := gives.next_ended total
      exact ⟨_, r', by simp only [takeBy, step]; rfl, .ended stands rfl⟩
    | cons row rows =>
      obtain ⟨r', step, later⟩ := gives.next_row total
      obtain ⟨s', r', taken, left⟩ := ih later
      exact ⟨s', r', by simp only [takeBy, step, taken]; rfl, left⟩

end DataSection.Gives

end ReportSheets
