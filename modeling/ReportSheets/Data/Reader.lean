import ReportSheets.Data.Csv
import ReportSheets.Data.Lines
import ReportSheets.Data.Row
import ReportSheets.Error

namespace ReportSheets

def startMarker : String := "<start>"

def endMarker : String := "<end>"

structure Reader where
  lines : List RawLine
  /-- A `<start>` line has been read ahead and comes again before the other lines. -/
  held : Bool := false
  lineNumber : Nat := 0
deriving DecidableEq

inductive RowStep
  | row (row : DataRow)
  | ended (more : Bool)
  | failed (e : Error)

structure DataSection where
  header : List String
  ended : Option Bool
deriving DecidableEq

namespace Reader

def ofBytes (bytes : ByteArray) : Reader := { lines := RawLine.ofBytes bytes }

def ofText (text : String) : Reader := { lines := RawLine.ofText text.toList }

/-- A byte order mark at the front of the first line does not count. -/
def lineAt (number : Nat) (line : String) : String :=
  if number = 1 then String.ofList (Csv.dropMark line.toList) else line

def next (r : Reader) : Except Error (Option String) × Reader :=
  if r.held then (.ok (some startMarker), { r with held := false })
  else
    match r.lines with
    | [] => (.ok none, r)
    | .notUtf8 :: rest => (.error .notUtf8, { r with lines := rest })
    | .utf8 line :: rest =>
      let number := r.lineNumber + 1
      (.ok (some (lineAt number line)), { r with lines := rest, lineNumber := number })

def commandLines (number : Nat) : List RawLine → Except Error (List String) × Reader
  | [] => (.error .sectionNotClosed, ⟨[], false, number⟩)
  | .notUtf8 :: rest => (.error .notUtf8, ⟨rest, false, number⟩)
  | .utf8 line :: rest =>
    let line := lineAt (number + 1) line
    if line = endMarker then (.ok [], ⟨rest, false, number + 1⟩)
    else
      let (commands, r) := commandLines (number + 1) rest
      (commands.map (line :: ·), r)

def functionSection (r : Reader) : Except Error (List String) × Reader :=
  match r.next with
  | (.error e, r) => (.error e, r)
  | (.ok none, r) => (.error .startMissing, r)
  | (.ok (some line), r) =>
    if line = startMarker then commandLines r.lineNumber r.lines
    else (.error (.startExpected r.lineNumber line), r)

def dataSectionBy (tokenize : Csv.Tokenizer) (r : Reader) : Except Error DataSection × Reader :=
  match r.next with
  | (.error e, r) => (.error e, r)
  | (.ok none, r) => (.ok ⟨[], some false⟩, r)
  | (.ok (some line), r) =>
    if line = startMarker then (.ok ⟨[], some true⟩, { r with held := true })
    else
      match tokenize line with
      | .ok values => (.ok ⟨values.getD [], none⟩, r)
      | .error reason => (.error (.malformedHeader r.lineNumber reason), r)

def dataSection (r : Reader) : Except Error DataSection × Reader := r.dataSectionBy Csv.tokenize

/-- The next row of a section with the given header; lines without a record are passed over, and so
are lines that are refused. -/
def nextRowBy (tokenize : Csv.Tokenizer) (header : List String) (number : Nat) :
    List RawLine → RowStep × Reader
  | [] => (.ended false, ⟨[], false, number⟩)
  | .notUtf8 :: rest => (.failed .notUtf8, ⟨rest, false, number⟩)
  | .utf8 line :: rest =>
    let line := lineAt (number + 1) line
    if line = startMarker then (.ended true, ⟨rest, true, number + 1⟩)
    else
      match tokenize line with
      | .ok (some values) => (.row (.ofRecord header values), ⟨rest, false, number + 1⟩)
      | .ok none => nextRowBy tokenize header (number + 1) rest
      | .error _ => nextRowBy tokenize header (number + 1) rest

def skipRows (number : Nat) : List RawLine → Except Error Bool × Reader
  | [] => (.ok false, ⟨[], false, number⟩)
  | .notUtf8 :: rest => (.error .notUtf8, ⟨rest, false, number⟩)
  | .utf8 line :: rest =>
    if lineAt (number + 1) line = startMarker then (.ok true, ⟨rest, true, number + 1⟩)
    else skipRows (number + 1) rest

end Reader

namespace DataSection

/-- The next row, none once the section has ended. A failure ends it too. -/
def nextBy (tokenize : Csv.Tokenizer) (s : DataSection) (r : Reader) :
    Option (Except Error DataRow) × DataSection × Reader :=
  match s.ended with
  | some _ => (none, s, r)
  | none =>
    if r.held then (none, { s with ended := some true }, r)
    else
      match Reader.nextRowBy tokenize s.header r.lineNumber r.lines with
      | (.row row, r) => (some (.ok row), s, r)
      | (.ended more, r) => (none, { s with ended := some more }, r)
      | (.failed e, r) => (some (.error e), { s with ended := some false }, r)

def next (s : DataSection) (r : Reader) : Option (Except Error DataRow) × DataSection × Reader :=
  s.nextBy Csv.tokenize r

def finish (s : DataSection) (r : Reader) : Except Error Bool × Reader :=
  match s.ended with
  | some more => (.ok more, r)
  | none => if r.held then (.ok true, r) else Reader.skipRows r.lineNumber r.lines

def takeBy (tokenize : Csv.Tokenizer) :
    Nat → DataSection → Reader → List (Except Error DataRow) × DataSection × Reader
  | 0, s, r => ([], s, r)
  | count + 1, s, r =>
    match s.nextBy tokenize r with
    | (none, s, r) => ([], s, r)
    | (some row, s, r) =>
      let (rows, s, r) := takeBy tokenize count s r
      (row :: rows, s, r)

def take (count : Nat) (s : DataSection) (r : Reader) :
    List (Except Error DataRow) × DataSection × Reader :=
  takeBy Csv.tokenize count s r

end DataSection

end ReportSheets
