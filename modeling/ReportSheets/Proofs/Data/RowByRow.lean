import ReportSheets.Proofs.Data.Alike
import ReportSheets.Proofs.Data.BlankLines

namespace ReportSheets

namespace Csv.Tokenizer

def holds (tokenize : Tokenizer) (line : String) : Bool := (tokenize.record line).isSome

variable {tokenize : Tokenizer} {line : String}

theorem eq_ok_of_record {values : List String} (record : tokenize.record line = some values) :
    tokenize line = .ok (some values) := by
  rw [Tokenizer.record] at record
  cases read : tokenize line with
  | error reason =>
    rw [read] at record
    cases record
  | ok found =>
    rw [read] at record
    exact congrArg Except.ok record

theorem not_eq_ok_of_record (empty : tokenize.record line = none) (values : List String) :
    tokenize line ≠ .ok (some values) := by
  intro read
  rw [Tokenizer.record, read] at empty
  cases empty

theorem length_rowsUnder (header lines : List String) :
    (rowsUnder tokenize header lines).length = lines.countP tokenize.holds := by
  rw [rowsUnder, List.length_filterMap_eq_countP]
  congr 1
  funext line
  rw [Option.isSome_map, holds]

end Csv.Tokenizer

theorem rowsUnder_of_none {tokenize : Csv.Tokenizer} {lines : List String}
    (none : lines.countP tokenize.holds = 0) (header : List String) :
    rowsUnder tokenize header lines = [] := by
  rw [← List.length_eq_zero_iff, Csv.Tokenizer.length_rowsUnder, none]

/-- What is left of the lines after so many records: those after the line of the last one, and
nothing when there are not so many. -/
inductive LeftAfter (tokenize : Csv.Tokenizer) (lines : List String) : Nat → List String → Prop
  | start : LeftAfter tokenize lines 0 lines
  | record {before left : List String} {line : String} (split : lines = before ++ line :: left)
      (holds : tokenize.holds line = true) :
      LeftAfter tokenize lines (before.countP tokenize.holds + 1) left
  | all {count : Nat} (fewer : lines.countP tokenize.holds < count) :
      LeftAfter tokenize lines count []

theorem LeftAfter.past_record {tokenize : Csv.Tokenizer} {before later left : List String}
    {line : String} {count : Nat} (none : before.countP tokenize.holds = 0)
    (holds : tokenize.holds line = true) (after : LeftAfter tokenize later count left) :
    LeftAfter tokenize (before ++ line :: later) (count + 1) left := by
  have counted : ∀ more : List String, (before ++ line :: more).countP tokenize.holds =
      more.countP tokenize.holds + 1 := by
    intro more
    rw [List.countP_append, none, List.countP_cons_of_pos holds, Nat.zero_add]
  cases after with
  | start =>
    have first : LeftAfter tokenize (before ++ line :: later)
        (before.countP tokenize.holds + 1) later := .record rfl holds
    rwa [none] at first
  | @record between left second split holds' =>
    subst split
    have joined := List.append_assoc before (line :: between) (second :: left)
    have further : LeftAfter tokenize (before ++ line :: (between ++ second :: left))
        ((before ++ line :: between).countP tokenize.holds + 1) left := .record joined.symm holds'
    rwa [counted between] at further
  | all fewer =>
    refine .all ?_
    rw [counted later]
    exact Nat.succ_lt_succ fewer

namespace Reader

variable {tokenize : Csv.Tokenizer} {number : Nat} {raw : List RawLine}
  {before data rest left header values : List String} {line : String}

def Leaves (r : Reader) (text : String) (ahead : List String) : Prop :=
  ∃ passed, passed ++ ahead = textLines text ∧ r.StandsAt passed.length ahead

def after (tokenize : Csv.Tokenizer) (r : Reader) (visits : List Visit) : Reader :=
  visits.foldl (fun r visit => (r.visit tokenize visit).2) r

theorem nextRowBy_record (header : List String)
    (numbered : Numbered number raw (before ++ line :: left))
    (inside : startMarker ∉ before) (other : line ≠ startMarker)
    (blank : ∀ earlier ∈ before, tokenize.record earlier = none)
    (record : tokenize.record line = some values) :
    ∃ raw', nextRowBy tokenize header number raw =
        (.row (.ofRecord header values), ⟨raw', false, number + before.length + 1⟩) ∧
      skipRows number raw = skipRows (number + before.length + 1) raw' ∧
      Numbered (number + before.length + 1) raw' left := by
  induction before generalizing number raw with
  | nil =>
    cases numbered with
    | @cons _ raw _ plain _ read rest =>
      refine ⟨raw, ?_, ?_, rest⟩
      · simp only [nextRowBy, read, if_neg other, Csv.Tokenizer.eq_ok_of_record record]
        rfl
      · simp only [skipRows, read, if_neg other]
        rfl
  | cons first before ih =>
    cases numbered with
    | @cons _ raw _ plain _ read rest =>
      rw [List.mem_cons, not_or] at inside
      obtain ⟨empty, blank⟩ := List.forall_mem_cons.mp blank
      have unmarked : first ≠ startMarker := fun same => inside.1 same.symm
      obtain ⟨raw', given, skipped, numbered⟩ := ih rest inside.2 blank
      have count : number + 1 + before.length + 1 = number + (first :: before).length + 1 := by
        rw [List.length_cons]; omega
      rw [count] at given skipped numbered
      refine ⟨raw', ?_, ?_, numbered⟩
      · rw [← given]
        rcases found : tokenize first with reason | (_ | values')
        · simp only [nextRowBy, read, if_neg unmarked, found]
        · simp only [nextRowBy, read, if_neg unmarked, found]
        · exact absurd found (Csv.Tokenizer.not_eq_ok_of_record empty values')
      · rw [← skipped]
        simp only [skipRows, read, if_neg unmarked]

theorem nextRowBy_blank (header : List String) (numbered : Numbered number raw (data ++ rest))
    (inside : startMarker ∉ data) (stops : rest = [] ∨ rest.head? = some startMarker)
    (blank : ∀ line ∈ data, tokenize.record line = none) :
    ∃ r, nextRowBy tokenize header number raw = (.ended (!rest.isEmpty), r) ∧
      skipRows number raw = (.ok (!rest.isEmpty), r) ∧
      r.StandsAt (number + data.length) rest ∧ r.held = !rest.isEmpty := by
  induction data generalizing number raw with
  | nil =>
    rcases stops with rfl | starts
    · cases numbered with
      | nil => exact ⟨_, rfl, rfl, .free (.nil number), rfl⟩
    · obtain ⟨more, rfl⟩ := List.head?_eq_some_iff.mp starts
      cases numbered with
      | @cons _ raw _ plain _ read rest =>
        refine ⟨⟨raw, true, number + 1⟩, ?_, ?_, .held rest, rfl⟩
        · simp only [nextRowBy, read, if_pos]
          rfl
        · simp only [skipRows, read, if_pos]
          rfl
  | cons first data ih =>
    cases numbered with
    | @cons _ raw _ plain _ read rest =>
      rw [List.mem_cons, not_or] at inside
      obtain ⟨empty, blank⟩ := List.forall_mem_cons.mp blank
      have unmarked : first ≠ startMarker := fun same => inside.1 same.symm
      obtain ⟨r, given, skipped, stands, held⟩ := ih rest inside.2 blank
      have count : number + 1 + data.length = number + (first :: data).length := by
        rw [List.length_cons]; omega
      rw [count] at stands
      refine ⟨r, ?_, ?_, stands, held⟩
      · rw [← given]
        rcases found : tokenize first with reason | (_ | values')
        · simp only [nextRowBy, read, if_neg unmarked, found]
        · simp only [nextRowBy, read, if_neg unmarked, found]
        · exact absurd found (Csv.Tokenizer.not_eq_ok_of_record empty values')
      · rw [← skipped]
        simp only [skipRows, read, if_neg unmarked]

end Reader

namespace DataSection

variable {tokenize : Csv.Tokenizer} {text : String} {data rest : List String} {s s' : DataSection}
  {r r' : Reader}

inductive Underway (text : String) (rest : List String) :
    List String → DataSection → Reader → Prop
  | reading {header data passed : List String} {raw : List RawLine}
      (place : passed ++ (data ++ rest) = textLines text) (inside : startMarker ∉ data)
      (stops : rest = [] ∨ rest.head? = some startMarker)
      (numbered : Reader.Numbered passed.length raw (data ++ rest)) :
      Underway text rest data ⟨header, none⟩ ⟨raw, false, passed.length⟩
  | ended {header : List String} {r : Reader} (leaves : r.Leaves text rest)
      (held : r.held = !rest.isEmpty) :
      Underway text rest [] ⟨header, some (!rest.isEmpty)⟩ r

/-- The section has ended: it gives no row and nothing moves the reader on, so that a section that
is begun in its place has ended too. -/
structure Over (tokenize : Csv.Tokenizer) (text : String) (rest : List String) (s : DataSection)
    (r : Reader) : Prop where
  next : s.nextBy tokenize r = (none, s, r)
  finish : s.finish r = (.ok (!rest.isEmpty), r)
  begins : r.dataSectionBy tokenize = (.ok ⟨[], some (!rest.isEmpty)⟩, r)
  leaves : r.Leaves text rest

/-- What comes of taking at most so many rows one by one, where the rows are those of `data` and
`rest` follows them. -/
structure Taken (tokenize : Csv.Tokenizer) (text : String) (data rest : List String)
    (s : DataSection) (r : Reader) (count : Nat) (s' : DataSection) (r' : Reader) : Prop where
  rows : s.takeBy tokenize count r =
    (((rowsUnder tokenize s.header data).take count).map .ok, s', r')
  finish : ∃ last, s'.finish r' = (.ok (!rest.isEmpty), last) ∧
    s.finish r = (.ok (!rest.isEmpty), last) ∧ last.Leaves text rest
  left : ∃ left, LeftAfter tokenize data count left ∧ r'.Leaves text (left ++ rest)
  closed : data.countP tokenize.holds < count → s'.Over tokenize text rest r'
  next_over : ∀ {s'' r''}, s'.nextBy tokenize r' = (none, s'', r'') →
    s''.Over tokenize text rest r''

theorem over_of_leaves {header : List String} (leaves : r.Leaves text rest)
    (held : r.held = !rest.isEmpty) : Over tokenize text rest ⟨header, some (!rest.isEmpty)⟩ r := by
  refine ⟨rfl, rfl, ?_, leaves⟩
  obtain ⟨passed, place, stands⟩ := leaves
  cases stands with
  | free numbered =>
    cases numbered with
    | nil => rfl
    | cons read numbered => cases held
  | held numbered => simp [Reader.dataSectionBy, Reader.next]

namespace Underway

theorem leaves (underway : Underway text rest data s r) : r.Leaves text (data ++ rest) := by
  cases underway with
  | reading place inside stops numbered => exact ⟨_, place, .free numbered⟩
  | ended leaves held => exact leaves

theorem nextBy (tokenize : Csv.Tokenizer) (underway : Underway text rest data s r) :
    (∃ before line left values r', data = before ++ line :: left ∧
      before.countP tokenize.holds = 0 ∧ tokenize.record line = some values ∧
      s.nextBy tokenize r = (some (.ok (.ofRecord s.header values)), s, r') ∧
      s.finish r' = s.finish r ∧ Underway text rest left s r') ∨
    (∃ s' r', data.countP tokenize.holds = 0 ∧ s.nextBy tokenize r = (none, s', r') ∧
      s'.finish r' = s.finish r ∧ Underway text rest [] s' r' ∧ Over tokenize text rest s' r') := by
  cases underway with
  | ended leaves held =>
    exact .inr ⟨_, r, List.countP_nil, rfl, rfl, .ended leaves held, over_of_leaves leaves held⟩
  | @reading header data passed raw place inside stops numbered =>
    cases found : data.find? tokenize.holds with
    | some line =>
      obtain ⟨holds, before, left, rfl, earlier⟩ := List.find?_eq_some_iff_append.mp found
      obtain ⟨values, record⟩ := Option.isSome_iff_exists.mp holds
      have blank : ∀ line ∈ before, tokenize.record line = none := by
        intro line member
        simpa [Csv.Tokenizer.holds] using earlier line member
      simp only [List.mem_append, List.mem_cons, not_or] at inside
      rw [List.append_assoc, List.cons_append] at numbered place
      obtain ⟨raw', given, skipped, numbered⟩ := Reader.nextRowBy_record header numbered
        inside.1 (Ne.symm inside.2.1) blank record
      have count : passed.length + before.length + 1 = (passed ++ before ++ [line]).length := by
        simp only [List.length_append, List.length_singleton]
      have place : (passed ++ before ++ [line]) ++ (left ++ rest) = textLines text := by
        rw [← place]
        simp
      rw [count] at given skipped numbered
      refine .inl ⟨before, line, left, values, _, rfl, ?_, record, ?_, ?_,
        .reading place inside.2.2 stops numbered⟩
      · rw [List.countP_eq_zero]
        intro line member
        simp [Csv.Tokenizer.holds, blank line member]
      · simp only [DataSection.nextBy, Bool.false_eq_true, if_false, given]
      · simp only [DataSection.finish, Bool.false_eq_true, if_false, skipped]
    | none =>
      have blank : ∀ line ∈ data, tokenize.record line = none := by
        intro line member
        simpa [Csv.Tokenizer.holds] using List.find?_eq_none.mp found line member
      obtain ⟨r', given, skipped, stands, held⟩ := Reader.nextRowBy_blank header
        numbered inside stops blank
      have leaves : r'.Leaves text rest := by
        refine ⟨passed ++ data, ?_, ?_⟩
        · rw [List.append_assoc, place]
        · rwa [List.length_append]
      refine .inr ⟨⟨header, some (!rest.isEmpty)⟩, r', ?_, ?_, ?_, .ended leaves held,
        over_of_leaves leaves held⟩
      · rw [List.countP_eq_zero]
        intro line member
        simp [Csv.Tokenizer.holds, blank line member]
      · simp only [DataSection.nextBy, Bool.false_eq_true, if_false, given]
      · simp only [DataSection.finish, Bool.false_eq_true, if_false, skipped]

theorem finish (underway : Underway text rest data s r) :
    ∃ r', s.finish r = (.ok (!rest.isEmpty), r') ∧ r'.Leaves text rest := by
  cases underway with
  | ended leaves held => exact ⟨r, rfl, leaves⟩
  | @reading header data passed raw place inside stops numbered =>
    obtain ⟨r', skipped, stands⟩ := Reader.skipRows_numbered numbered
    obtain ⟨part, after⟩ := parts_append inside stops
    rw [part, after] at stands
    rw [after] at skipped
    refine ⟨r', ?_, passed ++ data, ?_, ?_⟩
    · simp only [DataSection.finish, Bool.false_eq_true, if_false, skipped]
    · rw [List.append_assoc, place]
    · rwa [List.length_append]

theorem over_of_next (underway : Underway text rest data s r)
    (ended : s.nextBy tokenize r = (none, s', r')) : Over tokenize text rest s' r' := by
  rcases underway.nextBy tokenize with
    ⟨before, line, left, values, r₁, -, -, -, given, -⟩ | ⟨s₁, r₁, -, given, -, -, closed⟩
  · rw [given] at ended
    cases ended
  · rw [given] at ended
    cases ended
    exact closed

theorem takeBy (tokenize : Csv.Tokenizer) (underway : Underway text rest data s r) (count : Nat) :
    ∃ s' r' left, s.takeBy tokenize count r =
        (((rowsUnder tokenize s.header data).take count).map .ok, s', r') ∧
      s'.finish r' = s.finish r ∧ LeftAfter tokenize data count left ∧
      (data.countP tokenize.holds < count → Over tokenize text rest s' r') ∧
      Underway text rest left s' r' := by
  induction count generalizing data r with
  | zero =>
    refine ⟨s, r, data, rfl, rfl, .start, ?_, underway⟩
    intro fewer
    exact absurd fewer (Nat.not_lt_zero _)
  | succ count ih =>
    rcases underway.nextBy tokenize with
      ⟨before, line, later, values, r₁, rfl, none, record, given, finished, underway⟩ |
      ⟨s', r', none, given, finished, underway, closed⟩
    · obtain ⟨s', r', left, taken, again, after, closed, underway⟩ := ih underway
      have holds : tokenize.holds line = true := by rw [Csv.Tokenizer.holds, record]; rfl
      have rows : rowsUnder tokenize s.header (before ++ line :: later) =
          .ofRecord s.header values :: rowsUnder tokenize s.header later := by
        rw [rowsUnder, List.filterMap_append, ← rowsUnder, rowsUnder_of_none none, List.nil_append,
          List.filterMap_cons, record]
        rfl
      refine ⟨s', r', left, ?_, again.trans finished, after.past_record none holds, ?_, underway⟩
      · simp only [DataSection.takeBy, given, taken, rows]
        rfl
      · intro fewer
        rw [List.countP_append, none, List.countP_cons_of_pos holds] at fewer
        exact closed (by omega)
    · refine ⟨s', r', [], ?_, finished, .all (by omega), fun _ => closed, underway⟩
      simp only [DataSection.takeBy, given, rowsUnder_of_none none]
      rfl

theorem taken (underway : Underway text rest data s r) (count : Nat) :
    ∃ s' r', Taken tokenize text data rest s r count s' r' := by
  obtain ⟨s', r', left, rows, same, after, closed, later⟩ :=
    underway.takeBy tokenize count
  obtain ⟨last, finished, leaves⟩ := underway.finish
  exact ⟨s', r', rows, ⟨last, same.trans finished, finished, leaves⟩,
    ⟨left, after, later.leaves⟩, closed, later.over_of_next⟩

end Underway

end DataSection

namespace Reader

variable {tokenize : Csv.Tokenizer} {text : String} {ahead : List String} {r r' : Reader}
  {s : DataSection}

theorem reader_perform_line (tokenize : Csv.Tokenizer) (r : Reader) :
    (r.perform tokenize .line).2 = r.next.2 := by
  rw [perform]
  rcases r.next with ⟨_ | _, _⟩ <;> rfl

theorem reader_perform_commands (tokenize : Csv.Tokenizer) (r : Reader) :
    (r.perform tokenize .commands).2 = r.functionSection.2 := by
  rw [perform]
  rcases r.functionSection with ⟨_ | _, _⟩ <;> rfl

theorem Leaves.perform (tokenize : Csv.Tokenizer) (leaves : r.Leaves text ahead) {step : Step}
    (takes : ∀ {behind : Nat}, r.StandsAt behind ahead →
      ∃ lines left answer r', r.perform tokenize step = (answer, r') ∧ ahead = lines ++ left ∧
        Takes tokenize behind step lines left answer ∧ r'.StandsAt (behind + lines.length) left) :
    ∃ left, (r.perform tokenize step).2.Leaves text left := by
  obtain ⟨passed, place, stands⟩ := leaves
  obtain ⟨lines, left, _, r', performed, rfl, -, stands⟩ := takes stands
  rw [performed]
  refine ⟨left, passed ++ lines, ?_, ?_⟩
  · rw [List.append_assoc, place]
  · rwa [List.length_append]

/-- A section that can be begun has its rows to come from the lines between the header and the next
`<start>` line. -/
theorem Leaves.dataSectionBy (tokenize : Csv.Tokenizer) (leaves : r.Leaves text ahead) :
    (∃ e r' left, r.dataSectionBy tokenize = (.error e, r') ∧ r'.Leaves text left) ∨
    (∃ s r', r.dataSectionBy tokenize = (.ok s, r') ∧
      s.header = headerOf tokenize (dataPart ahead) ∧
      DataSection.Underway text (afterData ahead) (dataPart ahead).tail s r') := by
  obtain ⟨passed, place, stands⟩ := leaves
  cases ahead with
  | nil =>
    have held : r.held = false := by
      cases stands
      rfl
    refine .inr ⟨⟨[], some false⟩, r, ?_, rfl, .ended ⟨passed, place, stands⟩ held⟩
    simp only [Reader.dataSectionBy, stands.next_nil]
  | cons line ahead =>
    obtain ⟨raw, given, numbered⟩ := stands.next_cons
    by_cases marker : line = startMarker
    · subst marker
      refine .inr ⟨⟨[], some true⟩, ⟨raw, true, passed.length + 1⟩, ?_, ?_, ?_⟩
      · simp only [Reader.dataSectionBy, given, if_true]
      · rw [dataPart_start, headerOf]
      · rw [dataPart_start, afterData_start]
        exact .ended ⟨passed, place, .held numbered⟩ rfl
    · have further : (passed ++ [line]) ++ ahead = textLines text := by
        rw [List.append_assoc, List.singleton_append, place]
      have count : passed.length + 1 = (passed ++ [line]).length := by
        rw [List.length_append, List.length_singleton]
      rw [count] at given numbered
      cases read : tokenize line with
      | error reason =>
        refine .inl ⟨.malformedHeader (passed ++ [line]).length reason, _, ahead, ?_,
          passed ++ [line], further, .free numbered⟩
        simp only [Reader.dataSectionBy, given, if_neg marker, read]
      | ok values =>
        refine .inr ⟨⟨values.getD [], none⟩, ⟨raw, false, (passed ++ [line]).length⟩, ?_, ?_, ?_⟩
        · simp only [Reader.dataSectionBy, given, if_neg marker, read]
        · rw [dataPart_cons marker, headerOf, Csv.Tokenizer.record, read]
          rfl
        · rw [dataPart_cons marker, afterData_cons marker, List.tail_cons]
          have parts := dataPart_append_afterData ahead
          have stops : afterData ahead = [] ∨ (afterData ahead).head? = some startMarker := by
            rcases afterData_cases ahead with none | ⟨more, starts⟩
            · exact .inl none
            · exact .inr (by rw [starts]; rfl)
          refine .reading ?_ (start_not_mem_dataPart ahead) stops ?_
          · rw [parts, further]
          · rwa [parts]

theorem Leaves.visit (tokenize : Csv.Tokenizer) (leaves : r.Leaves text ahead) (visit : Visit) :
    ∃ left, (r.visit tokenize visit).2.Leaves text left := by
  cases visit with
  | line =>
    obtain ⟨left, after⟩ := leaves.perform tokenize StandsAt.perform_line
    exact ⟨left, reader_perform_line tokenize r ▸ after⟩
  | commands =>
    obtain ⟨left, after⟩ := leaves.perform tokenize StandsAt.perform_commands
    exact ⟨left, reader_perform_commands tokenize r ▸ after⟩
  | rows count finished =>
    rcases leaves.dataSectionBy tokenize with
      ⟨e, r', left, begun, after⟩ | ⟨s, r', begun, -, underway⟩
    · refine ⟨left, ?_⟩
      simp only [Reader.visit, begun]
      exact after
    · obtain ⟨s', r₁, left, taken, -, -, -, underway⟩ :=
        underway.takeBy tokenize count
      cases finished with
      | false =>
        refine ⟨left ++ afterData ahead, ?_⟩
        simp only [Reader.visit, begun, taken, Bool.false_eq_true, if_false]
        exact underway.leaves
      | true =>
        obtain ⟨r₂, done, after⟩ := underway.finish
        refine ⟨afterData ahead, ?_⟩
        simp only [Reader.visit, begun, taken, if_true, done]
        exact after

theorem Leaves.after (tokenize : Csv.Tokenizer) (leaves : r.Leaves text ahead)
    (visits : List Visit) : ∃ left, (r.after tokenize visits).Leaves text left := by
  induction visits generalizing r ahead with
  | nil => exact ⟨ahead, leaves⟩
  | cons visit visits ih =>
    obtain ⟨left, between⟩ := leaves.visit tokenize visit
    exact ih between

theorem leaves_after (tokenize : Csv.Tokenizer) (text : String) (visits : List Visit) :
    ∃ ahead, ((ofBytes text.toUTF8).after tokenize visits).Leaves text ahead :=
  Leaves.after tokenize ⟨[], rfl, standsAt_ofBytes text⟩ visits

end Reader

/-- However many rows of a section are taken before it is finished, finishing comes to the same, and
the rows are the first ones; a section that is left instead leaves the lines after its last row, and
one that has given no row any more stays where it is. -/
theorem DataSection.taken_row_by_row (tokenize : Csv.Tokenizer) (text : String)
    (visits : List Reader.Visit) {s : DataSection} {r : Reader}
    (begun : ((Reader.ofBytes text.toUTF8).after tokenize visits).dataSectionBy tokenize =
      (.ok s, r)) :
    ∃ ahead, ((Reader.ofBytes text.toUTF8).after tokenize visits).Leaves text ahead ∧
      s.header = headerOf tokenize (dataPart ahead) ∧
      ∀ count, ∃ s' r',
        Taken tokenize text (dataPart ahead).tail (afterData ahead) s r count s' r' := by
  obtain ⟨ahead, leaves⟩ := Reader.leaves_after tokenize text visits
  refine ⟨ahead, leaves, ?_⟩
  rcases leaves.dataSectionBy tokenize with
    ⟨e, r', left, failed, -⟩ | ⟨s', r', started, header, underway⟩
  · rw [begun] at failed
    cases failed
  · rw [begun] at started
    cases started
    exact ⟨header, underway.taken⟩

/-- The section stands between two others and has a line without a record. -/
theorem DataSection.taken_row_by_row_between_sections :
    let text := "<start>\nA=b\n<end>\nh\n1\n\n2\n<start>\n"
    let before := (Reader.ofBytes text.toUTF8).after Csv.tokenize [.commands]
    let s : DataSection := ⟨["h"], none⟩
    let r : Reader := ⟨[.utf8 "1", .utf8 "", .utf8 "2", .utf8 "<start>"], false, 4⟩
    before.dataSectionBy Csv.tokenize = (.ok s, r) ∧
    s.takeBy Csv.tokenize 1 r =
      ([.ok ⟨[("h", "1")]⟩], s, ⟨[.utf8 "", .utf8 "2", .utf8 "<start>"], false, 5⟩) ∧
    ∃ ahead, before.Leaves text ahead ∧ s.header = headerOf Csv.tokenize (dataPart ahead) ∧
      ∀ count, ∃ s' r',
        Taken Csv.tokenize text (dataPart ahead).tail (afterData ahead) s r count s' r' := by
  have begun : ((Reader.ofBytes "<start>\nA=b\n<end>\nh\n1\n\n2\n<start>\n".toUTF8).after
        Csv.tokenize [.commands]).dataSectionBy Csv.tokenize =
      (.ok ⟨["h"], none⟩, ⟨[.utf8 "1", .utf8 "", .utf8 "2", .utf8 "<start>"], false, 4⟩) := by
    rw [Reader.ofBytes_toUTF8]
    rfl
  exact ⟨begun, rfl, taken_row_by_row Csv.tokenize _ [.commands] begun⟩

end ReportSheets
