import ReportSheets.Yaml.Scalar.Block
import ReportSheets.Yaml.Scalar.Plain
import ReportSheets.Yaml.Scalar.Quoted
import ReportSheets.Yaml.Tag
import ReportSheets.Yaml.Token

namespace ReportSheets.Yaml

structure KeyPlace where
  index : Nat
  line : Nat
  column : Nat
  tokens : Nat
  /-- It begins a line of the open block, in which only keys do. -/
  required : Bool

def KeyPlace.isPast (place : KeyPlace) (c : Cursor) : Bool :=
  place.line < c.line || place.index + 1024 < c.index

structure Layout where
  cursor : Cursor
  tokens : List Token := []
  count : Nat := 0
  blocks : List Nat := []
  /-- The key that may have begun since the last bracket, and those before the open brackets. -/
  key : Option KeyPlace := none
  around : List (Option KeyPlace) := []
  keyAllowed : Bool := true

namespace Layout

def flow (s : Layout) : Bool := !s.around.isEmpty

def least (s : Layout) : Nat := (s.blocks.head?.map (· + 1)).getD 0

/-- The number of blanks, comments, line ends and byte order marks before the next token, and
whether a key may begin there. A tab may not stand where a key may begin. -/
def gap (flow : Bool) (keyAllowed comment : Bool) (column : Nat) : List Char → Nat × Bool
  | [] => (0, keyAllowed)
  | c :: rest =>
    if isBreak c then
      let (more, keyAllowed) := gap flow (keyAllowed || !flow) false 0 rest
      (more + 1, keyAllowed)
    else if comment || c == ' ' || c == '#' || (c == '\t' && (flow || !keyAllowed)) ||
        (c == '\ufeff' && column == 0) then
      let (more, keyAllowed) := gap flow keyAllowed (comment || c == '#') (column + 1) rest
      (more + 1, keyAllowed)
    else (0, keyAllowed)

def toToken (s : Layout) : Layout :=
  let (length, keyAllowed) := gap s.flow s.keyAllowed false s.cursor.column s.cursor.rest
  { s with cursor := s.cursor.skip length, keyAllowed }

/-- The layout when no key can have begun that is too far back; none when one had to. -/
def forgetKeys? (s : Layout) : Option Layout :=
  let past (place : KeyPlace) := place.isPast s.cursor
  if (s.key :: s.around).any fun key => key.any fun place => past place && place.required then none
  else
    some { s with
      key := s.key.filter fun place => !past place
      around := s.around.map fun key => key.filter fun place => !past place }

def dropKey? (s : Layout) : Option Layout :=
  if s.key.any (·.required) then none else some { s with key := none }

def saveKey? (s : Layout) : Option Layout :=
  if s.keyAllowed then
    s.dropKey?.map fun dropped =>
      { dropped with
        key := some {
          index := s.cursor.index, line := s.cursor.line, column := s.cursor.column
          tokens := s.count
          required := !s.flow && s.blocks.head? == some s.cursor.column } }
  else some s

def insert (s : Layout) (count : Nat) (token : Token) : Layout :=
  { s with tokens := s.tokens.insertIdx (s.count - count) token, count := s.count + 1 }

def push (s : Layout) (token : Token) : Layout :=
  { s with tokens := token :: s.tokens, count := s.count + 1 }

def read (s : Layout) (token : Token) (length : Nat) : Layout :=
  { s.push token with cursor := s.cursor.skip length }

def openBlock (s : Layout) (column count : Nat) (token : Token) : Layout :=
  if !s.flow && s.blocks.head?.all (· < column) then
    { s.insert count token with blocks := column :: s.blocks }
  else s

def closeBlocks (s : Layout) (closes : Nat → Bool) : Layout :=
  if s.flow then s
  else
    let closed := (s.blocks.takeWhile closes).length
    { s with
      blocks := s.blocks.drop closed
      tokens := List.replicate closed .blockEnd ++ s.tokens
      count := s.count + closed }

/-- The layout where a mark ends the document, or a directive comes before the next one. -/
def endDocument? (s : Layout) : Option Layout :=
  (s.closeBlocks fun _ => true).dropKey?.map fun s => { s with keyAllowed := false }

def directive? (s : Layout) : Option Layout := do
  let s ← s.endDocument?
  let (directive, rest) ← Yaml.directive? s.cursor.rest
  let token := match directive with
    | .version major minor => .version major minor
    | .handle handle => .handle handle
  return { s.push token with cursor := s.cursor.skipTo rest }

def marker? (s : Layout) (token : Token) : Option Layout :=
  s.endDocument?.map (·.read token 3)

def opened? (s : Layout) (token : Token) : Option Layout :=
  s.saveKey?.map fun s =>
    { s.read token 1 with key := none, around := s.key :: s.around, keyAllowed := true }

def closed? (s : Layout) (token : Token) : Option Layout :=
  s.dropKey?.map fun s =>
    let after := { s.read token 1 with keyAllowed := false }
    match s.around with
    | key :: around => { after with key, around }
    | [] => after

def comma? (s : Layout) : Option Layout :=
  s.dropKey?.map fun s => { s.read .comma 1 with keyAllowed := true }

def item? (s : Layout) : Option Layout :=
  if s.flow || s.keyAllowed then
    (s.openBlock s.cursor.column s.count .sequenceStart).dropKey?.map fun s =>
      { s.read .item 1 with keyAllowed := true }
  else none

def markedKey? (s : Layout) : Option Layout :=
  if s.flow || s.keyAllowed then
    (s.openBlock s.cursor.column s.count .mappingStart).dropKey?.map fun s =>
      { s.read .key 1 with keyAllowed := !s.flow }
  else none

def value? (s : Layout) : Option Layout :=
  match s.key with
  | some place =>
    let s := (s.insert place.tokens .key).openBlock place.column place.tokens .mappingStart
    some { s.read .value 1 with key := none, keyAllowed := false }
  | none =>
    if s.flow || s.keyAllowed then
      let s := s.openBlock s.cursor.column s.count .mappingStart
      some { s.read .value 1 with keyAllowed := !s.flow }
    else none

def afterName : List Char := "?:,]\x7d%@`".toList

def name? (s : Layout) (token : List Char → Token) : Option Layout := do
  let s ← s.saveKey?
  let name := s.cursor.rest.tail.takeWhile isNameCharacter
  let rest := s.cursor.rest.tail.drop name.length
  if !name.isEmpty && (endsWord rest || rest.head?.any afterName.contains) then
    some { s.read (token name) (name.length + 1) with keyAllowed := false }
  else none

def tag? (s : Layout) : Option Layout := do
  let s ← s.saveKey?
  let (handle, rest) ← Yaml.tag? s.flow s.cursor.rest
  return { s.push (.tag handle) with cursor := s.cursor.skipTo rest, keyAllowed := false }

def block? (s : Layout) : Option Layout := do
  let s ← s.dropKey?
  let (text, cursor) ← Yaml.block? s.least s.cursor
  return { s.push (.scalar text) with cursor, keyAllowed := true }

def quoted? (s : Layout) : Option Layout := do
  let s ← s.saveKey?
  let (text, cursor) ← Yaml.quoted? s.cursor
  return { s.push (.scalar text) with cursor, keyAllowed := false }

def plain? (s : Layout) : Option Layout := do
  let s ← s.saveKey?
  let found ← Yaml.plain? s.flow s.least s.cursor
  return { s.read (.scalar found.text) found.taken with keyAllowed := found.broken }

def token? (s : Layout) : Option Layout :=
  let atStart := s.cursor.column = 0
  match s.cursor.rest with
  | [] => none
  | c :: rest =>
    let marks := s.flow || endsWord rest
    if atStart ∧ c = '%' then s.directive?
    else if atStart ∧ startsMarker (c :: rest) then
      s.marker? (if c = '-' then .documentStart else .documentEnd)
    else if c = '[' then s.opened? .openBracket
    else if c = '{' then s.opened? .openBrace
    else if c = ']' then s.closed? .closeBracket
    else if c = '}' then s.closed? .closeBrace
    else if c = ',' then s.comma?
    else if c = '-' ∧ endsWord rest then s.item?
    else if c = '?' ∧ marks then s.markedKey?
    else if c = ':' ∧ marks then s.value?
    else if c = '*' then s.name? .alias
    else if c = '&' then s.name? .anchor
    else if c = '!' then s.tag?
    else if (c = '|' ∨ c = '>') ∧ !s.flow then s.block?
    else if c = '\'' ∨ c = '"' then s.quoted?
    else s.plain?

def tokensFrom? : Nat → Layout → Option (List Token)
  | 0, _ => none
  | fuel + 1, s => do
    let s ← s.toToken.forgetKeys?
    let s := s.closeBlocks (s.cursor.column < ·)
    if s.cursor.rest.isEmpty then s.endDocument?.map (·.tokens.reverse)
    else tokensFrom? fuel (← s.token?)

end Layout

def tokens? (text : List Char) : Option (List Token) :=
  Layout.tokensFrom? (text.length + 1) { cursor := { rest := text } }

end ReportSheets.Yaml
