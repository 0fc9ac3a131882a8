namespace ReportSheets.Archive

inductive Stop
  | ended
  | corrupt
deriving DecidableEq

abbrev Inflating (α : Type) := Except Stop α

def orCorrupt {α : Type} : Option α → Inflating α
  | some a => .ok a
  | none => .error .corrupt

def bit (bytes : ByteArray) (place : Nat) : Inflating Nat :=
  match bytes[place / 8]? with
  | some byte => .ok (byte >>> (place % 8).toUInt8 &&& 1).toNat
  | none => .error .ended

def bits (bytes : ByteArray) : Nat → Nat → Inflating (Nat × Nat)
  | 0, place => .ok (0, place)
  | count + 1, place => do
    let low ← bit bytes place
    let (high, place) ← bits bytes count (place + 1)
    return (low + 2 * high, place)

/-- How many codes there are of each length from one up, and the symbols in the order of their
codes. -/
structure PrefixCode where
  counts : List Nat
  symbols : Array Nat

namespace PrefixCode

def longest : Nat := 15

def free? : Nat → List Nat → Option Nat
  | free, [] => some free
  | free, count :: counts =>
    if 2 * free < count then none else free? (2 * free - count) counts

/-- The code in which each symbol has the length at its place; unused symbols have length zero. No
code may be left over, unless there is one symbol at most. -/
def ofLengths (lengths : List Nat) : Inflating PrefixCode :=
  let sizes := (List.range longest).map (· + 1)
  let ofSize := fun size => (lengths.zipIdx.filter fun entry => entry.1 == size).map (·.2)
  let symbols := (sizes.flatMap ofSize).toArray
  let counts := sizes.map fun size => (ofSize size).length
  if symbols.size ≤ 1 ∨ free? 1 counts = some 0 then .ok ⟨counts, symbols⟩ else .error .corrupt

/-- Reads on while the bits read are none of the codes of their length; `first` is the first of
these codes and `index` the place of its symbol. -/
def search (code : PrefixCode) (bytes : ByteArray) :
    List Nat → Nat → Nat → Nat → Nat → Inflating (Nat × Nat)
  | [], _, _, _, _ => .error .corrupt
  | count :: counts, read, first, index, place => do
    let read := 2 * read + (← bit bytes place)
    if read < first + count then
      return (← orCorrupt code.symbols[index + (read - first)]?, place + 1)
    else search code bytes counts read (2 * (first + count)) (index + count) (place + 1)

def symbol (code : PrefixCode) (bytes : ByteArray) (place : Nat) : Inflating (Nat × Nat) :=
  code.search bytes code.counts 0 0 0 place

end PrefixCode

def lengthBase? (symbol : Nat) : Option (Nat × Nat) :=
  if symbol < 8 then some (symbol + 3, 0)
  else if symbol < 28 then some ((4 + symbol % 4) <<< (symbol / 4 - 1) + 3, symbol / 4 - 1)
  else if symbol = 28 then some (258, 0)
  else none

def distanceBase? (symbol : Nat) : Option (Nat × Nat) :=
  if symbol < 4 then some (symbol + 1, 0)
  else if symbol < 30 then some ((2 + symbol % 2) <<< (symbol / 2 - 1) + 1, symbol / 2 - 1)
  else none

def extended (bytes : ByteArray) (base : Nat × Nat) (place : Nat) : Inflating (Nat × Nat) :=
  (bits bytes base.2 place).map fun (more, place) => (base.1 + more, place)

def copyBack (distance : Nat) : Nat → ByteArray → Inflating ByteArray
  | 0, written => .ok written
  | count + 1, written =>
    if distance = 0 ∨ written.size < distance then .error .corrupt
    else
      match written[written.size - distance]? with
      | some byte => copyBack distance count (written.push byte)
      | none => .error .corrupt

abbrev Inflated := ByteArray × Inflating Nat

/-- The symbols of a block up to its end. Every symbol has a bit at least, so that `fuel` may be
the number of bits. -/
def inflateSymbols (bytes : ByteArray) (literals distances : PrefixCode) :
    Nat → ByteArray → Nat → Inflated
  | 0, written, _ => (written, .error .corrupt)
  | fuel + 1, written, place =>
    match literals.symbol bytes place with
    | .error stop => (written, .error stop)
    | .ok (symbol, place) =>
      if symbol < 256 then
        inflateSymbols bytes literals distances fuel (written.push symbol.toUInt8) place
      else if symbol = 256 then (written, .ok place)
      else
        let repeated := do
          let (length, place) ← extended bytes (← orCorrupt (lengthBase? (symbol - 257))) place
          let (symbol, place) ← distances.symbol bytes place
          let (distance, place) ← extended bytes (← orCorrupt (distanceBase? symbol)) place
          return (← copyBack distance length written, place)
        match repeated with
        | .error stop => (written, .error stop)
        | .ok (written, place) => inflateSymbols bytes literals distances fuel written place

def fixedLiterals : Inflating PrefixCode :=
  PrefixCode.ofLengths (List.replicate 144 8 ++ List.replicate 112 9 ++ List.replicate 24 7 ++
    List.replicate 8 8)

def fixedDistances : Inflating PrefixCode :=
  PrefixCode.ofLengths (List.replicate 32 5)

def lengthOrder : List Nat := [16, 17, 18, 0, 8, 7, 9, 6, 10, 5, 11, 4, 12, 3, 13, 2, 14, 1, 15]

def inflateLengthCode (bytes : ByteArray) (place count : Nat) : Inflating (PrefixCode × Nat) := do
  let read := fun (state : List (Nat × Nat) × Nat) symbol => do
    let (length, place) ← bits bytes 3 state.2
    return (state.1 ++ [(symbol, length)], place)
  let (lengths, place) ← (lengthOrder.take count).foldlM read ([], place)
  let lengthOf := fun symbol =>
    ((lengths.find? fun entry => entry.1 == symbol).map (·.2)).getD 0
  return (← PrefixCode.ofLengths ((List.range 19).map lengthOf), place)

def inflateLengths (bytes : ByteArray) (code : PrefixCode) (count : Nat) :
    Nat → List Nat → Nat → Inflating (List Nat × Nat)
  | 0, _, _ => .error .corrupt
  | fuel + 1, lengths, place =>
    if lengths.length = count then .ok (lengths, place)
    else if count < lengths.length then .error .corrupt
    else
      let more := do
        let (symbol, place) ← code.symbol bytes place
        if symbol < 16 then return ([symbol], place)
        else if symbol = 16 then
          let last ← orCorrupt lengths.getLast?
          let (times, place) ← extended bytes (3, 2) place
          return (List.replicate times last, place)
        else
          let (times, place) ← extended bytes (if symbol = 17 then (3, 3) else (11, 7)) place
          return (List.replicate times 0, place)
      match more with
      | .error stop => .error stop
      | .ok (more, place) => inflateLengths bytes code count fuel (lengths ++ more) place

def mostLiterals : Nat := 286

def mostDistances : Nat := 30

def inflateCodes (bytes : ByteArray) (place : Nat) : Inflating (PrefixCode × PrefixCode × Nat) := do
  let (literals, place) ← extended bytes (257, 5) place
  let (distances, place) ← extended bytes (1, 5) place
  let (sizes, place) ← extended bytes (4, 4) place
  let (code, place) ← inflateLengthCode bytes place sizes
  if mostLiterals < literals ∨ mostDistances < distances then throw .corrupt
  let count := literals + distances
  let (lengths, place) ← inflateLengths bytes code count (count + 1) [] place
  return (← PrefixCode.ofLengths (lengths.take literals),
    ← PrefixCode.ofLengths (lengths.drop literals), place)

def inflateStored (bytes written : ByteArray) (place : Nat) : Inflated :=
  let start := (place + 7) / 8
  let sizes := do
    let (length, place) ← bits bytes 16 (8 * start)
    return (length, (← bits bytes 16 place).1)
  match sizes with
  | .error stop => (written, .error stop)
  | .ok (length, complement) =>
    let first := start + 4
    if length + complement ≠ 65535 then (written, .error .corrupt)
    else
      (written ++ bytes.extract first (first + length),
        if bytes.size < first + length then .error .ended else .ok (8 * (first + length)))

def inflateBlock (bytes written : ByteArray) (kind place : Nat) : Inflated :=
  let codes : Inflating (PrefixCode × PrefixCode × Nat) :=
    if kind = 1 then return (← fixedLiterals, ← fixedDistances, place)
    else if kind = 2 then inflateCodes bytes place
    else .error .corrupt
  if kind = 0 then inflateStored bytes written place
  else
    match codes with
    | .ok (literals, distances, place) =>
      inflateSymbols bytes literals distances (8 * bytes.size + 1) written place
    | .error stop => (written, .error stop)

def inflateBlocks (bytes : ByteArray) : Nat → ByteArray → Nat → ByteArray × Option Stop
  | 0, written, _ => (written, some .corrupt)
  | fuel + 1, written, place =>
    let head := do
      let (last, place) ← bits bytes 1 place
      let (kind, place) ← bits bytes 2 place
      return (last, kind, place)
    match head with
    | .error stop => (written, some stop)
    | .ok (last, kind, place) =>
      match inflateBlock bytes written kind place with
      | (written, .error stop) => (written, some stop)
      | (written, .ok place) =>
        if last = 1 then (written, none) else inflateBlocks bytes fuel written place

def inflate (bytes : ByteArray) : ByteArray × Option Stop :=
  inflateBlocks bytes (8 * bytes.size + 1) .empty 0

end ReportSheets.Archive
