import ReportSheets.Data.Progress
import ReportSheets.Proofs.Data.Position

namespace ReportSheets.Reader

inductive Step
  | line
  | commands
  | data (limit : Option Nat)

inductive Answer
  | line (line : Option String)
  | commands (commands : List String)
  | data (header : List String) (rows : List (Except Error DataRow)) (more : Except Error Bool)
  | failed (e : Error)

def performData (tokenize : Csv.Tokenizer) (limit : Option Nat) (r : Reader) : Answer × Reader :=
  match r.dataSectionBy tokenize with
  | (.error e, r) => (.failed e, r)
  | (.ok s, r) =>
    let (rows, s', r) := s.takeBy tokenize (limit.getD r.remaining) r
    let (more, r) := s'.finish r
    (.data s.header rows more, r)

def perform (tokenize : Csv.Tokenizer) (r : Reader) : Step → Answer × Reader
  | .line =>
    match r.next with
    | (.error e, r) => (.failed e, r)
    | (.ok line, r) => (.line line, r)
  | .commands =>
    match r.functionSection with
    | (.error e, r) => (.failed e, r)
    | (.ok commands, r) => (.commands commands, r)
  | .data limit => r.performData tokenize limit

def performAll (tokenize : Csv.Tokenizer) (r : Reader) : List Step → List Answer × Reader
  | [] => ([], r)
  | step :: steps =>
    let (answer, r) := r.perform tokenize step
    let (answers, r) := r.performAll tokenize steps
    (answer :: answers, r)

def asked (limit : Option Nat) (rows : List DataRow) : List DataRow :=
  match limit with
  | none => rows
  | some count => rows.take count

inductive Takes (tokenize : Csv.Tokenizer) (behind : Nat) :
    Step → List String → List String → Answer → Prop
  | line (line : String) (left : List String) :
      Takes tokenize behind .line [line] left (.line (some line))
  | noLine : Takes tokenize behind .line [] [] (.line none)
  | commands (commands left : List String) (inside : endMarker ∉ commands) :
      Takes tokenize behind .commands (startMarker :: (commands ++ [endMarker])) left
        (.commands commands)
  | unclosed (lines : List String) (unclosed : endMarker ∉ lines) :
      Takes tokenize behind .commands (startMarker :: lines) [] (.failed .sectionNotClosed)
  | unexpected (line : String) (left : List String) (other : line ≠ startMarker) :
      Takes tokenize behind .commands [line] left (.failed (.startExpected (behind + 1) line))
  | missing : Takes tokenize behind .commands [] [] (.failed .startMissing)
  | data (limit : Option Nat) (data left : List String) (inside : startMarker ∉ data)
      (stops : left = [] ∨ left.head? = some startMarker) :
      Takes tokenize behind (.data limit) data left
        (.data (headerOf tokenize data) ((asked limit (rowsOf tokenize data)).map .ok)
          (.ok (!left.isEmpty)))

inductive TakesAll (tokenize : Csv.Tokenizer) :
    Nat → List Step → List (List String) → List String → List Answer → Prop
  | nil (behind : Nat) (left : List String) : TakesAll tokenize behind [] [] left []
  | cons {behind : Nat} {step : Step} {steps : List Step} {lines left : List String}
      {taken : List (List String)} {answer : Answer} {answers : List Answer}
      (first : Takes tokenize behind step lines (taken.flatten ++ left) answer)
      (rest : TakesAll tokenize (behind + lines.length) steps taken left answers) :
      TakesAll tokenize behind (step :: steps) (lines :: taken) left (answer :: answers)

/-- What the steps took and what is left account for every line of the text. -/
structure Accounts (tokenize : Csv.Tokenizer) (text : String) (steps : List Step)
    (answers : List Answer) (r : Reader) (taken : List (List String)) (left : List String) :
    Prop where
  steps : TakesAll tokenize 0 steps taken left answers
  lines : taken.flatten ++ left = textLines text
  /-- The line that the reader holds has been read and is not taken. -/
  counted : r.lineNumber = taken.flatten.length + if r.held then 1 else 0
  unread : r.lineNumber + r.lines.length = (textLines text).length
  held : r.held = true → left.head? = some startMarker
  offending : ∀ number found, .failed (.startExpected number found) ∈ answers →
    0 < number ∧ (textLines text)[number - 1]? = some found ∧ found ≠ startMarker

variable {tokenize : Csv.Tokenizer} {r : Reader} {behind : Nat} {ahead : List String}

theorem Numbered.length_eq {number : Nat} {raw : List RawLine} {lines : List String}
    (numbered : Numbered number raw lines) : raw.length = lines.length := by
  induction numbered with
  | nil number => rfl
  | cons read rest ih => rw [List.length_cons, List.length_cons, ih]

theorem StandsAt.counted (stands : r.StandsAt behind ahead) :
    r.lineNumber = behind + if r.held then 1 else 0 := by
  cases stands <;> rfl

theorem StandsAt.unread (stands : r.StandsAt behind ahead) :
    r.lineNumber + r.lines.length = behind + ahead.length := by
  cases stands with
  | free numbered => rw [numbered.length_eq]
  | @held behind raw ahead numbered =>
    rw [numbered.length_eq, List.length_cons]
    show behind + 1 + ahead.length = behind + (ahead.length + 1)
    omega

theorem StandsAt.head_of_held (stands : r.StandsAt behind ahead) (held : r.held = true) :
    ahead.head? = some startMarker := by
  cases stands with
  | free numbered => cases held
  | held numbered => rfl

theorem length_rows_le {s : DataSection} {rows : List DataRow}
    (gives : s.Gives tokenize r rows behind ahead) : rows.length ≤ r.remaining := by
  cases gives with
  | @reading header lines _ number _ raw _ numbered given passed left =>
    have fewer : rows.length ≤ (dataPart lines).length := by
      rw [← given]
      exact List.length_filterMap_le _ _
    have part : (dataPart lines).length ≤ lines.length :=
      (List.takeWhile_prefix _).length_le
    have all := numbered.length_eq
    simp only [remaining]
    omega
  | ended stands follows => exact Nat.zero_le _

theorem take_limit {rows : List DataRow} {bound : Nat} (enough : rows.length ≤ bound)
    (limit : Option Nat) : rows.take (limit.getD bound) = asked limit rows := by
  cases limit with
  | none => exact List.take_of_length_le enough
  | some count => rfl

theorem StandsAt.performData (total : tokenize.Total) (limit : Option Nat)
    (stands : r.StandsAt behind ahead) :
    ∃ r', r.performData tokenize limit =
        (.data (headerOf tokenize (dataPart ahead))
          ((asked limit (rowsOf tokenize (dataPart ahead))).map .ok)
          (.ok (!(afterData ahead).isEmpty)), r') ∧
      r'.StandsAt (behind + (dataPart ahead).length) (afterData ahead) := by
  obtain ⟨s, begun, opened, header, gives⟩ := stands.dataSectionBy total
  obtain ⟨s', midway, taken, later⟩ := gives.take total (limit.getD begun.remaining)
  obtain ⟨r', finished, left⟩ := later.finish
  refine ⟨r', ?_, left⟩
  simp only [Reader.performData, opened, taken, finished, header, take_limit (length_rows_le gives)]

theorem StandsAt.perform_line (stands : r.StandsAt behind ahead) :
    ∃ taken left answer r', r.perform tokenize .line = (answer, r') ∧ ahead = taken ++ left ∧
      Takes tokenize behind .line taken left answer ∧
      r'.StandsAt (behind + taken.length) left := by
  cases ahead with
  | nil =>
    refine ⟨[], [], _, r, ?_, rfl, .noLine, stands⟩
    simp only [perform, stands.next_nil]
  | cons line ahead =>
    obtain ⟨raw, given, numbered⟩ := stands.next_cons
    refine ⟨[line], ahead, _, _, ?_, rfl, .line line ahead, .free numbered⟩
    simp only [perform, given]
    rfl

theorem StandsAt.perform_commands (stands : r.StandsAt behind ahead) :
    ∃ taken left answer r', r.perform tokenize .commands = (answer, r') ∧ ahead = taken ++ left ∧
      Takes tokenize behind .commands taken left answer ∧
      r'.StandsAt (behind + taken.length) left := by
  cases ahead with
  | nil =>
    refine ⟨[], [], _, r, ?_, rfl, .missing, stands⟩
    simp only [perform, stands.functionSection_nil]
  | cons line ahead =>
    by_cases marker : line = startMarker
    · subst marker
      by_cases closed : endMarker ∈ ahead
      · obtain ⟨commands, left, rfl, inside⟩ := List.eq_append_cons_of_mem closed
        obtain ⟨r', read, after⟩ := stands.functionSection_closed inside
        refine ⟨_, left, _, r', ?_, ?_, .commands commands left inside, ?_⟩
        · simp only [perform, read]
        · simp
        · simpa [Nat.add_assoc] using after
      · obtain ⟨r', read, after⟩ := stands.functionSection_open closed
        refine ⟨_, [], _, r', ?_, ?_, .unclosed ahead closed, ?_⟩
        · simp only [perform, read]
        · simp
        · simpa [Nat.add_assoc] using after
    · obtain ⟨r', read, after⟩ := stands.functionSection_other marker
      refine ⟨[line], ahead, _, r', ?_, rfl, .unexpected line ahead marker, after⟩
      simp only [perform, read]

theorem StandsAt.perform_data (total : tokenize.Total) (limit : Option Nat)
    (stands : r.StandsAt behind ahead) :
    ∃ taken left answer r', r.perform tokenize (.data limit) = (answer, r') ∧
      ahead = taken ++ left ∧ Takes tokenize behind (.data limit) taken left answer ∧
      r'.StandsAt (behind + taken.length) left := by
  obtain ⟨r', given, after⟩ := stands.performData total limit
  have stops : afterData ahead = [] ∨ (afterData ahead).head? = some startMarker := by
    rcases afterData_cases ahead with none | ⟨more, marker⟩
    · exact .inl none
    · exact .inr (by rw [marker]; rfl)
  exact ⟨dataPart ahead, afterData ahead, _, r', given, (dataPart_append_afterData ahead).symm,
    .data limit _ _ (start_not_mem_dataPart ahead) stops, after⟩

theorem StandsAt.perform (total : tokenize.Total) (step : Step)
    (stands : r.StandsAt behind ahead) :
    ∃ taken left answer r', r.perform tokenize step = (answer, r') ∧ ahead = taken ++ left ∧
      Takes tokenize behind step taken left answer ∧ r'.StandsAt (behind + taken.length) left := by
  cases step with
  | line => exact stands.perform_line
  | commands => exact stands.perform_commands
  | data limit => exact stands.perform_data total limit

theorem StandsAt.performAll (total : tokenize.Total) (steps : List Step)
    (stands : r.StandsAt behind ahead) :
    ∃ taken left answers r', r.performAll tokenize steps = (answers, r') ∧
      TakesAll tokenize behind steps taken left answers ∧ taken.flatten ++ left = ahead ∧
      r'.StandsAt (behind + taken.flatten.length) left := by
  induction steps generalizing r behind ahead with
  | nil => exact ⟨[], ahead, [], r, rfl, .nil behind ahead, rfl, stands⟩
  | cons step steps ih =>
    obtain ⟨lines, rest, answer, next, performed, split, takes, between⟩ := stands.perform total step
    obtain ⟨taken, left, answers, r', later, all, same, after⟩ := ih between
    subst same split
    refine ⟨lines :: taken, left, answer :: answers, r', ?_, .cons takes all, ?_, ?_⟩
    · simp only [Reader.performAll, performed, later]
    · rw [List.flatten_cons, List.append_assoc]
    · rw [List.flatten_cons, List.length_append, ← Nat.add_assoc]
      exact after

theorem Takes.offending {step : Step} {lines left : List String} {number : Nat} {found : String}
    (takes : Takes tokenize behind step lines left (.failed (.startExpected number found))) :
    number = behind + 1 ∧ lines = [found] ∧ found ≠ startMarker := by
  cases takes with
  | unexpected line left other => exact ⟨rfl, rfl, other⟩

theorem TakesAll.offending {steps : List Step} {taken : List (List String)} {left : List String}
    {answers : List Answer} (all : TakesAll tokenize behind steps taken left answers)
    {number : Nat} {found : String} (failed : .failed (.startExpected number found) ∈ answers) :
    behind < number ∧ (taken.flatten ++ left)[number - 1 - behind]? = some found ∧
      found ≠ startMarker := by
  induction all with
  | nil behind left => cases failed
  | @cons behind step steps lines left taken answer answers first rest ih =>
    rcases List.mem_cons.mp failed with same | later
    · subst same
      obtain ⟨rfl, rfl, other⟩ := first.offending
      refine ⟨Nat.lt_succ_self _, ?_, other⟩
      simp
    · obtain ⟨beyond, place, other⟩ := ih later
      refine ⟨by omega, ?_, other⟩
      have shift : number - 1 - behind - lines.length = number - 1 - (behind + lines.length) := by
        omega
      rw [List.flatten_cons, List.append_assoc, List.getElem?_append_right (by omega), shift]
      exact place

/-- Whatever the order of the steps, no line of the text is lost, taken twice or taken out of turn,
and no line that a total tokenizer reads is refused. -/
theorem performAll_accounts (tokenize : Csv.Tokenizer) (total : tokenize.Total) (text : String)
    (steps : List Step) :
    ∃ taken left, Accounts tokenize text steps
      (performAll tokenize (ofBytes text.toUTF8) steps).1
      (performAll tokenize (ofBytes text.toUTF8) steps).2 taken left := by
  obtain ⟨taken, left, answers, r, performed, all, lines, stands⟩ :=
    (standsAt_ofBytes text).performAll total steps
  have counted := stands.counted
  have unread := stands.unread
  rw [Nat.zero_add] at counted unread
  rw [performed]
  refine ⟨taken, left, all, lines, counted, ?_, stands.head_of_held, ?_⟩
  · rw [unread, ← lines, List.length_append]
  · intro number found failed
    obtain ⟨beyond, place, other⟩ := all.offending failed
    rw [lines] at place
    exact ⟨beyond, place, other⟩

theorem performAll_accounts_unclosed :
    Csv.tokenize.Total ∧ ∃ taken left,
      Accounts Csv.tokenize "A=b\n<start>\nC=d\n" [.commands, .data none, .commands]
        (performAll Csv.tokenize (ofBytes "A=b\n<start>\nC=d\n".toUTF8)
          [.commands, .data none, .commands]).1
        (performAll Csv.tokenize (ofBytes "A=b\n<start>\nC=d\n".toUTF8)
          [.commands, .data none, .commands]).2 taken left :=
  ⟨Csv.Tokenizer.total_tokenize,
    performAll_accounts Csv.tokenize Csv.Tokenizer.total_tokenize _ _⟩

end ReportSheets.Reader
