import ReportSheets.Data.Progress

namespace ReportSheets

namespace Reader

/-- Raw lines that a reader takes for the same lines after so many of the text. -/
inductive SameLines : Nat → List RawLine → List RawLine → Prop
  | nil (number : Nat) : SameLines number [] []
  | notUtf8 {number : Nat} {raw other : List RawLine} (rest : SameLines number raw other) :
      SameLines number (.notUtf8 :: raw) (.notUtf8 :: other)
  | utf8 {number : Nat} {raw other : List RawLine} {line line' : String}
      (read : lineAt (number + 1) line = lineAt (number + 1) line')
      (rest : SameLines (number + 1) raw other) :
      SameLines number (.utf8 line :: raw) (.utf8 line' :: other)

inductive Alike : Reader → Reader → Prop
  | same {raw other : List RawLine} {held : Bool} {number : Nat}
      (lines : SameLines number raw other) : Alike ⟨raw, held, number⟩ ⟨other, held, number⟩

def Agree {α : Type} (one another : α × Reader) : Prop :=
  ∃ outcome r r', one = (outcome, r) ∧ another = (outcome, r') ∧ Alike r r'

variable {r r' : Reader} {raw other : List RawLine} {number : Nat}

theorem Alike.lineNumber_eq (alike : Alike r r') : r.lineNumber = r'.lineNumber := by
  cases alike
  rfl

theorem Alike.agree {α : Type} (alike : Alike r r') (outcome : α) :
    Agree (outcome, r) (outcome, r') := ⟨outcome, r, r', rfl, rfl, alike⟩

theorem Alike.next (alike : Alike r r') : Agree r.next r'.next := by
  obtain ⟨lines⟩ := alike
  rename_i raw other held number
  cases held with
  | true => exact (Alike.same lines).agree _
  | false =>
    cases lines with
    | nil number => exact (Alike.same (.nil number)).agree _
    | notUtf8 rest => exact (Alike.same rest).agree _
    | utf8 read rest =>
      simp only [Reader.next, read]
      exact (Alike.same rest).agree _

theorem SameLines.commandLines (lines : SameLines number raw other) :
    Agree (commandLines number raw) (commandLines number other) := by
  induction lines with
  | nil number => exact (Alike.same (.nil number)).agree _
  | notUtf8 rest ih => exact (Alike.same rest).agree _
  | @utf8 number raw other line line' read rest ih =>
    obtain ⟨commands, left, left', one, another, alike⟩ := ih
    by_cases ends : lineAt (number + 1) line' = endMarker
    · simp only [Reader.commandLines, read, if_pos ends]
      exact (Alike.same rest).agree _
    · simp only [Reader.commandLines, read, if_neg ends, one, another]
      exact alike.agree _

theorem Alike.functionSection (alike : Alike r r') : Agree r.functionSection r'.functionSection := by
  obtain ⟨outcome, left, left', one, another, alike⟩ := alike.next
  rcases outcome with e | (_ | line)
  · simp only [Reader.functionSection, one, another]
    exact alike.agree _
  · simp only [Reader.functionSection, one, another]
    exact alike.agree _
  · obtain ⟨lines⟩ := alike
    by_cases starts : line = startMarker
    · simp only [Reader.functionSection, one, another, if_pos starts]
      exact lines.commandLines
    · simp only [Reader.functionSection, one, another, if_neg starts]
      exact (Alike.same lines).agree _

theorem Alike.dataSectionBy (tokenize : Csv.Tokenizer) (alike : Alike r r') :
    Agree (r.dataSectionBy tokenize) (r'.dataSectionBy tokenize) := by
  obtain ⟨outcome, left, left', one, another, alike⟩ := alike.next
  rcases outcome with e | (_ | line)
  · simp only [Reader.dataSectionBy, one, another]
    exact alike.agree _
  · simp only [Reader.dataSectionBy, one, another]
    exact alike.agree _
  · obtain ⟨lines⟩ := alike
    by_cases starts : line = startMarker
    · simp only [Reader.dataSectionBy, one, another, if_pos starts]
      exact (Alike.same lines).agree _
    · cases record : tokenize line <;>
        simp only [Reader.dataSectionBy, one, another, if_neg starts, record] <;>
        exact (Alike.same lines).agree _

theorem SameLines.nextRowBy (tokenize : Csv.Tokenizer) (header : List String)
    (lines : SameLines number raw other) :
    Agree (nextRowBy tokenize header number raw) (nextRowBy tokenize header number other) := by
  induction lines with
  | nil number => exact (Alike.same (.nil number)).agree _
  | notUtf8 rest ih => exact (Alike.same rest).agree _
  | @utf8 number raw other line line' read rest ih =>
    by_cases starts : lineAt (number + 1) line' = startMarker
    · simp only [Reader.nextRowBy, read, if_pos starts]
      exact (Alike.same rest).agree _
    · rcases record : tokenize (lineAt (number + 1) line') with reason | (_ | values)
      · simpa only [Reader.nextRowBy, read, if_neg starts, record] using ih
      · simpa only [Reader.nextRowBy, read, if_neg starts, record] using ih
      · simp only [Reader.nextRowBy, read, if_neg starts, record]
        exact (Alike.same rest).agree _

theorem SameLines.skipRows (lines : SameLines number raw other) :
    Agree (skipRows number raw) (skipRows number other) := by
  induction lines with
  | nil number => exact (Alike.same (.nil number)).agree _
  | notUtf8 rest ih => exact (Alike.same rest).agree _
  | @utf8 number raw other line line' read rest ih =>
    by_cases starts : lineAt (number + 1) line' = startMarker
    · simp only [Reader.skipRows, read, if_pos starts]
      exact (Alike.same rest).agree _
    · simpa only [Reader.skipRows, read, if_neg starts] using ih

end Reader

namespace DataSection

open Reader

variable {r r' : Reader}

theorem nextBy_alike (tokenize : Csv.Tokenizer) (s : DataSection) (alike : Alike r r') :
    ∃ row s' left left', s.nextBy tokenize r = (row, s', left) ∧
      s.nextBy tokenize r' = (row, s', left') ∧ Alike left left' := by
  obtain ⟨header, ended⟩ := s
  cases ended with
  | some more => exact ⟨_, _, r, r', rfl, rfl, alike⟩
  | none =>
    obtain ⟨lines⟩ := alike
    rename_i raw other held number
    cases held with
    | true => exact ⟨_, _, _, _, rfl, rfl, .same lines⟩
    | false =>
      obtain ⟨step, left, left', one, another, alike⟩ :=
        lines.nextRowBy tokenize header
      cases step <;>
        simp only [nextBy, Bool.false_eq_true, if_false, one, another] <;>
        exact ⟨_, _, left, left', rfl, rfl, alike⟩

theorem takeBy_alike (tokenize : Csv.Tokenizer) (count : Nat) (s : DataSection) (alike : Alike r r') :
    ∃ rows s' left left', takeBy tokenize count s r = (rows, s', left) ∧
      takeBy tokenize count s r' = (rows, s', left') ∧ Alike left left' := by
  induction count generalizing s r r' with
  | zero => exact ⟨[], s, r, r', rfl, rfl, alike⟩
  | succ count ih =>
    obtain ⟨row, s', left, left', one, another, alike⟩ := nextBy_alike tokenize s alike
    cases row with
    | none =>
      simp only [takeBy, one, another]
      exact ⟨_, _, left, left', rfl, rfl, alike⟩
    | some row =>
      obtain ⟨rows, s', left, left', first, second, alike⟩ := ih s' alike
      simp only [takeBy, one, another, first, second]
      exact ⟨_, _, left, left', rfl, rfl, alike⟩

theorem finish_alike (s : DataSection) (alike : Alike r r') : Agree (s.finish r) (s.finish r') := by
  obtain ⟨header, ended⟩ := s
  cases ended with
  | some more => exact alike.agree _
  | none =>
    obtain ⟨lines⟩ := alike
    rename_i raw other held number
    cases held with
    | true => exact (Alike.same lines).agree _
    | false => exact lines.skipRows

end DataSection

namespace Reader

inductive Visit
  | line
  | commands
  | rows (count : Nat) (finished : Bool)

inductive Reply
  | line (outcome : Except Error (Option String))
  | commands (outcome : Except Error (List String))
  | refused (e : Error)
  | rows (header : List String) (rows : List (Except Error DataRow))
    (more : Option (Except Error Bool))

def visit (tokenize : Csv.Tokenizer) (r : Reader) : Visit → Reply × Reader
  | .line =>
    let (outcome, r) := r.next
    (.line outcome, r)
  | .commands =>
    let (outcome, r) := r.functionSection
    (.commands outcome, r)
  | .rows count finished =>
    match r.dataSectionBy tokenize with
    | (.error e, r) => (.refused e, r)
    | (.ok s, r) =>
      let (rows, s', r) := s.takeBy tokenize count r
      if finished then
        let (more, r) := s'.finish r
        (.rows s.header rows (some more), r)
      else (.rows s.header rows none, r)

def visitAll (tokenize : Csv.Tokenizer) (r : Reader) : List Visit → List (Reply × Nat)
  | [] => []
  | visit :: visits =>
    let (reply, r) := r.visit tokenize visit
    (reply, r.lineNumber) :: r.visitAll tokenize visits

variable {r r' : Reader}

theorem Alike.visit (tokenize : Csv.Tokenizer) (alike : Alike r r') (visit : Visit) :
    Agree (r.visit tokenize visit) (r'.visit tokenize visit) := by
  cases visit with
  | line =>
    obtain ⟨outcome, left, left', one, another, alike⟩ := alike.next
    simp only [Reader.visit, one, another]
    exact alike.agree _
  | commands =>
    obtain ⟨outcome, left, left', one, another, alike⟩ := alike.functionSection
    simp only [Reader.visit, one, another]
    exact alike.agree _
  | rows count finished =>
    obtain ⟨outcome, left, left', one, another, alike⟩ := alike.dataSectionBy tokenize
    cases outcome with
    | error e =>
      simp only [Reader.visit, one, another]
      exact alike.agree _
    | ok s =>
      obtain ⟨rows, s', rest, rest', taken, taken', alike⟩ :=
        DataSection.takeBy_alike tokenize count s alike
      cases finished with
      | false =>
        simp only [Reader.visit, one, another, taken, taken', Bool.false_eq_true, if_false]
        exact alike.agree _
      | true =>
        obtain ⟨more, last, last', ended, ended', alike⟩ := DataSection.finish_alike s' alike
        simp only [Reader.visit, one, another, taken, taken', if_true, ended, ended']
        exact alike.agree _

theorem Alike.visitAll (tokenize : Csv.Tokenizer) (alike : Alike r r') (visits : List Visit) :
    r.visitAll tokenize visits = r'.visitAll tokenize visits := by
  induction visits generalizing r r' with
  | nil => rfl
  | cons visit visits ih =>
    obtain ⟨reply, left, left', one, another, alike⟩ := alike.visit tokenize visit
    simp only [Reader.visitAll, one, another, alike.lineNumber_eq, ih alike]

end Reader

end ReportSheets
