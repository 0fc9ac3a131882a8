import ReportSheets.Archive.Content
import ReportSheets.Archive.Inflate
import ReportSheets.Archive.Listing

namespace ReportSheets.Archive

structure Directory where
  base : Nat
  start : Nat
  count : Nat

structure Locator where
  place : Nat
  record : Nat
  file : Nat
  files : Nat

def locator? (bytes : ByteArray) (before : Nat) : Option Locator := do
  if before < 20 then none
  let place := before - 20
  if (← number? bytes 4 place) ≠ locatorMark then none
  return {
    place
    record := ← number? bytes 8 (place + 8)
    file := ← number? bytes 4 (place + 4)
    files := ← number? bytes 4 (place + 16) }

structure LargeEnd where
  place : Nat
  file : Nat
  directoryFile : Nat
  listed : Nat
  parts : Nat
  directory : Nat

def largeEnd? (bytes : ByteArray) (locator : Locator) (place : Nat) : Option LargeEnd := do
  if (← number? bytes 4 place) ≠ largeEndMark then none
  let size ← number? bytes 8 (place + 4)
  if size < 44 ∨ place + size + 12 ≠ locator.place then none
  let found : LargeEnd := {
    place
    file := ← number? bytes 4 (place + 16)
    directoryFile := ← number? bytes 4 (place + 20)
    listed := ← number? bytes 8 (place + 24)
    parts := ← number? bytes 8 (place + 32)
    directory := ← number? bytes 8 (place + 48) }
  if found.directoryFile ≠ locator.file ∨ place < 46 * found.parts + found.directory then none
  else some found

def largeDirectory? (bytes : ByteArray) (locator : Locator) : Option Directory := do
  if 1 < locator.files then none
  let found ←
    firstFrom (largeEnd? bytes locator) locator.record (locator.place - locator.record)
  if found.parts < found.listed ∨ found.file ≠ found.directoryFile then none
  let base := found.place - locator.record
  return { base, start := base + found.directory, count := found.parts }

/-- The directory that the end record at a place leads to: in a file of its own it begins with the
first listing behind the place that the record tells. The comment of the record lies in the file. -/
def directory? (bytes : ByteArray) (place : Nat) : Option Directory := do
  if (← number? bytes 4 place) ≠ endMark then none
  let comment ← number? bytes 2 (place + 20)
  if bytes.size < place + 22 + comment then none
  let parts ← number? bytes 2 (place + 10)
  let told ← number? bytes 4 (place + 16)
  let large := if parts = 0xFFFF ∨ told = largeNumber then locator? bytes place else none
  match large with
  | some locator => largeDirectory? bytes locator
  | none =>
    if (← number? bytes 2 (place + 4)) ≠ (← number? bytes 2 (place + 6)) then none
    let count ← number? bytes 2 (place + 8)
    if parts = 0 then
      if place < told then none else some { base := place - told, start := place, count }
    else
      let listing (place : Nat) :=
        if number? bytes 4 place = some directoryMark then some place else none
      (firstFrom listing told (place - told)).map fun start =>
        { base := start - told, start, count }

structure Entry extends Listing where
  start : Nat

def Directory.entry? (bytes : ByteArray) (directory : Directory) (listing : Listing) :
    Option Entry := do
  let header := directory.base + listing.header
  if directory.start ≤ header then none
  if (← number? bytes 4 header) ≠ partMark then none
  let start := header + 30 + (← number? bytes 2 (header + 26)) + (← number? bytes 2 (header + 28))
  if directory.start < start then none
  return { listing with start }

def Directory.entriesFrom? (bytes : ByteArray) (directory : Directory) :
    Nat → Nat → Option (List Entry)
  | 0, _ => some []
  | count + 1, place => do
    let (listing, place) ← listingAt? bytes place
    let entry ← directory.entry? bytes listing
    return entry :: (← entriesFrom? bytes directory count place)

def lastEntries? (bytes : ByteArray) (place : Nat) : Option (List Entry) :=
  match (directory? bytes place).bind fun directory =>
    directory.entriesFrom? bytes directory.count directory.start with
  | some entries => some entries
  | none =>
    match place with
    | 0 => none
    | place + 1 => lastEntries? bytes place

def Entry.content (bytes : ByteArray) (entry : Entry) : Content :=
  let stored := bytes.extract entry.start (entry.start + entry.size)
  let checked := fun (content : ByteArray) =>
    Content.bytes content
      (if (checksum content).toNat = entry.check then none else some .checksum)
  if entry.encrypted || entry.isSealed then .locked
  else if entry.method = 0 then checked stored
  else if entry.method = 8 then
    match inflate stored with
    | (_, some .corrupt) => .bytes .empty (some .corrupt)
    | (content, _) => checked content
  else .locked

/-- A part that comes again takes the place of the one before. -/
def putPart (parts : List (String × Content)) (name : String) (content : Content) :
    List (String × Content) :=
  if parts.any fun part => part.1 == name then
    parts.map fun part => if part.1 == name then (name, content) else part
  else parts ++ [(name, content)]

def unpack? (bytes : ByteArray) : Option (List (String × Content)) :=
  (lastEntries? bytes bytes.size).map fun entries =>
    entries.foldl (fun parts entry => putPart parts entry.name (entry.content bytes)) []

end ReportSheets.Archive
