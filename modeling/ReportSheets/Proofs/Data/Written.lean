import ReportSheets.Proofs.Data.Quoted
import ReportSheets.Proofs.Data.Steps
import ReportSheets.Proofs.Text.Words

namespace ReportSheets

namespace Written

def Unbroken (text : String) : Prop := '\n' ∉ text.toList

structure CommandLine where
  text : String
  unbroken : Unbroken text
  noReturn : text.toList.getLast? ≠ some '\r'
  notEnd : text ≠ endMarker

structure Record where
  first : String
  more : List String
  unbroken : ∀ value ∈ first :: more, Unbroken value

structure Table where
  header : Record
  rows : List Record

structure Section where
  commands : List CommandLine
  table : Option Table

inductive LineEnding
  | feed
  | returnFeed

def LineEnding.chars : LineEnding → List Char
  | .feed => ['\n']
  | .returnFeed => ['\r', '\n']

namespace Record

def values (record : Record) : List String := record.first :: record.more

def line (record : Record) : String :=
  String.ofList (Csv.recordLine record.first.toList (record.more.map String.toList))

end Record

def Table.lines (table : Table) : List String := (table.header :: table.rows).map Record.line

namespace Section

def tableLines (s : Section) : List String :=
  match s.table with
  | none => []
  | some table => table.lines

def lines (s : Section) : List String :=
  startMarker :: (s.commands.map CommandLine.text ++ endMarker :: s.tableLines)

def header (s : Section) : List String :=
  match s.table with
  | none => []
  | some table => table.header.values

def rows (s : Section) : List DataRow :=
  match s.table with
  | none => []
  | some table => table.rows.map fun row => ⟨table.header.values.zip row.values⟩

end Section

def joined (ending : Nat → LineEnding) (number : Nat) : List String → List Char
  | [] => []
  | line :: more => line.toList ++ (ending number).chars ++ joined ending (number + 1) more

def text (ending : Nat → LineEnding) (file : List Section) : String :=
  String.ofList (joined ending 0 (file.flatMap Section.lines))

def alternating : Nat → List Reader.Step
  | 0 => []
  | count + 1 => .commands :: .data none :: alternating count

def answers : List Section → List Reader.Answer
  | [] => []
  | s :: more =>
    .commands (s.commands.map CommandLine.text) ::
      .data s.header (s.rows.map .ok) (.ok (!more.isEmpty)) :: answers more

/-- A line that comes back as it is whatever ends it. -/
def Sturdy (line : String) : Prop := Unbroken line ∧ line.toList.getLast? ≠ some '\r'

theorem withoutReturn_sturdy {line : List Char} (noReturn : line.getLast? ≠ some '\r') :
    RawLine.withoutReturn line = line := if_neg noReturn

theorem withoutReturn_return (line : List Char) : RawLine.withoutReturn (line ++ ['\r']) = line := by
  simp [RawLine.withoutReturn]

theorem plainLines_append {front rest : List Char} (unbroken : '\n' ∉ front) :
    plainLines (front ++ '\n' :: rest) =
      String.ofList (RawLine.withoutReturn front) :: plainLines rest := by
  obtain ⟨piece, more, cut⟩ := List.exists_cons_of_ne_nil (Text.pieces_ne_nil (· == '\n') rest)
  have ended : Text.pieces (· == '\n') (front ++ '\n' :: rest) = front :: piece :: more := by
    rw [Text.pieces_append_mark (Text.beq_false_of_not_mem unbroken) (beq_self_eq_true '\n'), cut]
  rw [plainLines, ended, plainLines, cut]
  rfl

theorem plainLines_feed {front : List Char} (unbroken : '\n' ∉ front)
    (noReturn : front.getLast? ≠ some '\r') (rest : List Char) :
    plainLines (front ++ '\n' :: rest) = String.ofList front :: plainLines rest := by
  rw [plainLines_append unbroken, withoutReturn_sturdy noReturn]

theorem plainLines_returnFeed {front : List Char} (unbroken : '\n' ∉ front) (rest : List Char) :
    plainLines ((front ++ ['\r']) ++ '\n' :: rest) = String.ofList front :: plainLines rest := by
  have still : '\n' ∉ front ++ ['\r'] := by
    rw [List.mem_append, not_or]
    exact ⟨unbroken, by decide⟩
  rw [plainLines_append still, withoutReturn_return]

theorem plainLines_ended {line : String} (sturdy : Sturdy line) (ending : LineEnding)
    (rest : List Char) :
    plainLines (line.toList ++ ending.chars ++ rest) = line :: plainLines rest := by
  obtain ⟨unbroken, noReturn⟩ := sturdy
  cases ending with
  | feed =>
    have shape : line.toList ++ LineEnding.feed.chars ++ rest = line.toList ++ '\n' :: rest := by
      simp [LineEnding.chars]
    rw [shape, plainLines_feed unbroken noReturn, String.ofList_toList]
  | returnFeed =>
    have shape : line.toList ++ LineEnding.returnFeed.chars ++ rest =
        (line.toList ++ ['\r']) ++ '\n' :: rest := by
      simp [LineEnding.chars]
    rw [shape, plainLines_returnFeed unbroken, String.ofList_toList]

theorem plainLines_joined (ending : Nat → LineEnding) (number : Nat) {lines : List String}
    (sturdy : ∀ line ∈ lines, Sturdy line) : plainLines (joined ending number lines) = lines := by
  induction lines generalizing number with
  | nil => rfl
  | cons line lines ih =>
    have later := ih (number + 1) fun other member => sturdy other (List.mem_cons_of_mem _ member)
    rw [joined, plainLines_ended (sturdy line List.mem_cons_self), later]

theorem unbroken_startMarker : Unbroken startMarker := by
  unfold Unbroken
  decide

theorem unbroken_endMarker : Unbroken endMarker := by
  unfold Unbroken
  decide

theorem CommandLine.sturdy (command : CommandLine) : Sturdy command.text :=
  ⟨command.unbroken, command.noReturn⟩

theorem mem_of_mem_doubled {c : Char} {value : List Char} (other : c ≠ '"')
    (member : c ∈ Csv.doubled value) : c ∈ value := by
  induction value with
  | nil => exact member
  | cons d value ih =>
    by_cases quote : d = '"' <;> simp [Csv.doubled, quote, other] at member
    · exact List.mem_cons_of_mem _ (ih member)
    · rcases member with same | later
      · exact same ▸ List.mem_cons_self
      · exact List.mem_cons_of_mem _ (ih later)

theorem not_mem_quoted {value : String} (unbroken : Unbroken value) :
    '\n' ∉ Csv.quoted value.toList := by
  intro member
  have inside : '\n' ∈ Csv.doubled value.toList := by simpa [Csv.quoted] using member
  exact unbroken (mem_of_mem_doubled (by decide) inside)

namespace Record

theorem unbroken_line (record : Record) : Unbroken record.line := by
  intro member
  simp only [line, Csv.recordLine, String.toList_ofList, List.mem_append, List.mem_flatMap,
    List.mem_map] at member
  rcases member with inFirst | ⟨_, ⟨value, later, rfl⟩, inside⟩
  · exact not_mem_quoted (record.unbroken _ List.mem_cons_self) inFirst
  · rcases List.mem_cons.mp inside with comma | inside
    · exact absurd comma (by decide)
    · exact not_mem_quoted (record.unbroken _ (List.mem_cons_of_mem _ later)) inside

theorem getLast?_recordLine (first : List Char) (more : List (List Char)) :
    (Csv.recordLine first more).getLast? = some '"' := by
  rcases List.eq_nil_or_concat more with rfl | ⟨front, last, rfl⟩
  · have shape : Csv.recordLine first [] = '"' :: Csv.doubled first ++ ['"'] := by
      simp [Csv.recordLine, Csv.quoted]
    rw [shape, List.getLast?_concat]
  · have shape : Csv.recordLine first (front.concat last) =
        Csv.recordLine first front ++ ',' :: '"' :: Csv.doubled last ++ ['"'] := by
      simp [Csv.recordLine, Csv.quoted]
    rw [shape, List.getLast?_concat]

theorem sturdy (record : Record) : Sturdy record.line := by
  refine ⟨record.unbroken_line, ?_⟩
  rw [line, String.toList_ofList, getLast?_recordLine]
  decide

theorem line_ne_start (record : Record) : record.line ≠ startMarker := by
  intro same
  have first := congrArg (fun line => line.toList.head?) same
  simp [line, Csv.recordLine, Csv.quoted, startMarker] at first

theorem read_line (record : Record) : Csv.Tokenizer.record Csv.tokenize record.line =
    some record.values := by
  simp [Csv.Tokenizer.record, Csv.tokenize, line, Csv.record?_recordLine, values, Except.toOption,
    Function.comp_def]

end Record

namespace Section

theorem sturdy_of_mem_lines {s : Section} {line : String} (member : line ∈ s.lines) :
    Sturdy line := by
  simp only [lines, List.mem_cons, List.mem_append, List.mem_map] at member
  rcases member with rfl | ⟨command, -, rfl⟩ | rfl | inTable
  · exact ⟨unbroken_startMarker, by decide⟩
  · exact command.sturdy
  · exact ⟨unbroken_endMarker, by decide⟩
  · cases table : s.table with
    | none => simp [tableLines, table] at inTable
    | some table' =>
      simp only [tableLines, table, Table.lines, List.mem_map] at inTable
      obtain ⟨record, -, rfl⟩ := inTable
      exact record.sturdy

theorem end_not_mem_commands (s : Section) : endMarker ∉ s.commands.map CommandLine.text := by
  intro member
  obtain ⟨command, -, same⟩ := List.mem_map.mp member
  exact command.notEnd same

theorem start_not_mem_tableLines (s : Section) : startMarker ∉ s.tableLines := by
  intro member
  cases table : s.table with
  | none => simp [tableLines, table] at member
  | some table' =>
    simp only [tableLines, table, Table.lines, List.mem_map] at member
    obtain ⟨record, -, same⟩ := member
    exact record.line_ne_start same

theorem headerOf_tableLines (s : Section) : headerOf Csv.tokenize s.tableLines = s.header := by
  cases table : s.table with
  | none => simp [tableLines, header, table, headerOf]
  | some table' =>
    simp [tableLines, header, table, Table.lines, headerOf, Record.read_line]

theorem rowsOf_tableLines (s : Section) : rowsOf Csv.tokenize s.tableLines = s.rows := by
  have head := s.headerOf_tableLines
  rw [rowsOf, head]
  cases table : s.table with
  | none => simp [tableLines, rows, table, rowsUnder]
  | some table' =>
    simp only [tableLines, header, rows, table, Table.lines, List.map_cons, List.tail_cons,
      rowsUnder, List.filterMap_map]
    have read : ((fun line => (Csv.Tokenizer.record Csv.tokenize line).map
        (DataRow.ofRecord table'.header.values)) ∘ Record.line) =
          some ∘ fun row => ⟨table'.header.values.zip row.values⟩ := by
      funext row
      simp [Record.read_line, DataRow.ofRecord]
    rw [read, List.filterMap_eq_map]

end Section

/-- A written file begins with a `<start>` line, so that no data part runs into it. -/
theorem data_of_lines (file : List Section) :
    dataPart (file.flatMap Section.lines) = [] ∧
      afterData (file.flatMap Section.lines) = file.flatMap Section.lines := by
  cases file with
  | nil => exact ⟨rfl, rfl⟩
  | cons s more =>
    rw [List.flatMap_cons, Section.lines, List.cons_append]
    exact ⟨dataPart_start _, afterData_start _⟩

theorem isEmpty_lines (file : List Section) :
    (file.flatMap Section.lines).isEmpty = file.isEmpty := by
  cases file <;> rfl

theorem performAll_lines {r : Reader} {behind : Nat} (file : List Section)
    (stands : r.StandsAt behind (file.flatMap Section.lines)) :
    (r.performAll Csv.tokenize (alternating file.length)).1 = answers file := by
  induction file generalizing r behind with
  | nil => rfl
  | cons s more ih =>
    have shape : (s :: more).flatMap Section.lines =
        startMarker :: (s.commands.map CommandLine.text ++
          endMarker :: (s.tableLines ++ more.flatMap Section.lines)) := by
      simp [Section.lines]
    rw [shape] at stands
    obtain ⟨begun, read, between⟩ := stands.functionSection_closed s.end_not_mem_commands
    obtain ⟨next, bound, after⟩ := between.performData Csv.Tokenizer.total_tokenize none
    obtain ⟨noData, rest⟩ := data_of_lines more
    have data : dataPart (s.tableLines ++ more.flatMap Section.lines) = s.tableLines := by
      rw [dataPart_append s.start_not_mem_tableLines, noData, List.append_nil]
    have left : afterData (s.tableLines ++ more.flatMap Section.lines) =
        more.flatMap Section.lines := by
      rw [afterData_append s.start_not_mem_tableLines, rest]
    rw [data, left, s.headerOf_tableLines, s.rowsOf_tableLines, isEmpty_lines] at bound
    rw [left] at after
    simp only [List.length_cons, alternating, Reader.performAll, Reader.perform, read, bound,
      answers, ih after]
    rfl

theorem textLines_text (ending : Nat → LineEnding) (first : Section) (more : List Section) :
    textLines (text ending (first :: more)) = (first :: more).flatMap Section.lines := by
  have sturdy : ∀ line ∈ (first :: more).flatMap Section.lines, Sturdy line := by
    intro line member
    obtain ⟨s, -, inside⟩ := List.mem_flatMap.mp member
    exact Section.sturdy_of_mem_lines inside
  rw [textLines, text, String.toList_ofList, plainLines_joined ending 0 sturdy]
  rfl

/-- Reading undoes writing. -/
theorem read_text (ending : Nat → LineEnding) (first : Section) (more : List Section) :
    (Reader.performAll Csv.tokenize (Reader.ofBytes (text ending (first :: more)).toUTF8)
      (alternating (first :: more).length)).1 = answers (first :: more) := by
  have stands := Reader.standsAt_ofBytes (text ending (first :: more))
  rw [textLines_text] at stands
  exact performAll_lines _ stands

example : (Record.mk "a\"b" ["c,d", ""] (by unfold Unbroken; decide)).line =
    "\"a\"\"b\",\"c,d\",\"\"" := by decide

end Written

end ReportSheets
