import ReportSheets.Archive.Checksum
import ReportSheets.Archive.Number
import ReportSheets.Text.Encoding.SingleByte

namespace ReportSheets.Archive

def sealedMethod : Nat := 99

/-- What stands for a number that needs eight bytes. -/
def largeNumber : Nat := 0xFFFFFFFF

structure Listing where
  nameBytes : ByteArray
  name : String
  comment : String
  method : Nat
  encrypted : Bool
  check : Nat
  size : Nat
  unpackedSize : Nat
  header : Nat
  isSealed : Bool := false

def textOf (utf8 : Bool) (bytes : ByteArray) : String :=
  if utf8 then (String.fromUTF8? bytes).getD "\ufffd"
  else String.ofList (bytes.toList.filterMap fun byte =>
    Text.ByteTable.ibm437.character? byte.toNat)

inductive Extension
  | refused
  | ended (listing : Listing)
  | next (listing : Listing) (place : Nat)

structure Field where
  bytes : ByteArray
  place : Nat
  length : Nat
  stop : Nat

namespace Field

def data (field : Field) (skipped : Nat) : ByteArray :=
  field.bytes.extract (field.place + skipped) (field.place + field.length)

def value? (field : Field) (width skipped : Nat) : Option Nat :=
  let place := field.place + skipped
  if place + width ≤ field.stop then number? field.bytes width place else none

def after (field : Field) (taken : Nat) (listing : Listing) : Extension :=
  if field.place + taken ≤ field.stop then .next listing (field.place + taken) else .ended listing

def large? (field : Field) (taken value : Nat) : Option (Nat × Nat) :=
  if 24 ≤ field.length ∨ value = largeNumber then
    (field.value? 8 taken).map fun value => (value, taken + 8)
  else some (value, taken)

def largeNumbers (field : Field) (listing : Listing) : Extension :=
  match field.large? 0 listing.unpackedSize with
  | none => .ended listing
  | some (unpackedSize, taken) =>
    let listing := { listing with unpackedSize }
    match field.large? taken listing.size with
    | none => .ended listing
    | some (size, taken) =>
      let listing := { listing with size }
      match field.large? taken listing.header with
      | none => .ended listing
      | some (header, taken) =>
        let listing := { listing with header }
        if field.length < taken then .refused else field.after field.length listing

def textFor (field : Field) (bytes : ByteArray) (put : ByteArray → String → Listing)
    (listing : Listing) : Extension :=
  match field.value? 4 1 with
  | none => .ended listing
  | some check =>
    if field.length < 5 then .refused
    else if field.stop < field.place + field.length then .ended listing
    else if check ≠ (checksum bytes).toNat then .refused
    else
      match String.fromUTF8? (field.data 5) with
      | some text => field.after field.length (put (field.data 5) text)
      | none => .refused

def sealing (field : Field) (listing : Listing) : Extension :=
  if field.length ≠ 7 then .refused
  else
    match field.value? 2 0, field.value? 2 2, field.value? 1 4, field.value? 2 5 with
    | some version, some maker, some strength, some method =>
      if maker ≠ 0x4541 ∨ version = 0 ∨ 2 < version ∨ strength = 0 ∨ 3 < strength then .refused
      else .next { listing with method, isSealed := true } (field.place + 7)
    | _, _, _, _ => .ended listing

def times (field : Field) (listing : Listing) : Extension :=
  match field.value? 1 0 with
  | none => .ended listing
  | some flags =>
    let bits (places : Nat) := ((List.range places).filter flags.testBit).length
    if field.length = 5 then field.after 5 listing
    else if field.length ≠ 1 + 4 * bits 8 then .refused
    else field.after (1 + 4 * bits 3) listing

def longTimes (field : Field) (listing : Listing) : Extension :=
  if field.length ≠ 32 then .refused
  else
    match field.value? 2 4, field.value? 2 6 with
    | some tag, some size => if tag ≠ 1 ∨ size ≠ 24 then .refused else field.after 32 listing
    | some tag, none => if tag ≠ 1 then .refused else .ended listing
    | none, _ => .ended listing

def extend (field : Field) (kind : Nat) (listing : Listing) : Extension :=
  if kind = 0x0001 then field.largeNumbers listing
  else if kind = 0x000A then field.longTimes listing
  else if kind = 0x9901 then field.sealing listing
  else if kind = 0x5455 then field.times listing
  else if kind = 0x6375 then
    field.textFor listing.comment.toUTF8 (fun _ comment => { listing with comment }) listing
  else if kind = 0x7075 then
    field.textFor listing.nameBytes (fun nameBytes name => { listing with nameBytes, name }) listing
  else field.after field.length listing

end Field

/-- The listing with the further fields from `place` to `stop`; each takes up four bytes at
least. -/
def Listing.extended? (bytes : ByteArray) (stop : Nat) : Nat → Nat → Listing → Option Listing
  | 0, _, listing => some listing
  | fuel + 1, place, listing =>
    if stop < place + 4 then some listing
    else
      match number? bytes 2 place, number? bytes 2 (place + 2) with
      | some kind, some length =>
        match Field.extend { bytes, place := place + 4, length, stop } kind listing with
        | .refused => none
        | .ended listing => some listing
        | .next listing place => Listing.extended? bytes stop fuel place listing
      | _, _ => some listing

def listingAt? (bytes : ByteArray) (place : Nat) : Option (Listing × Nat) := do
  if (← number? bytes 4 place) ≠ directoryMark then none
  let utf8 := (← number? bytes 2 (place + 8)) / 0x800 % 2 == 1
  let nameEnd := place + 46 + (← number? bytes 2 (place + 28))
  let fieldsEnd := nameEnd + (← number? bytes 2 (place + 30))
  let next := fieldsEnd + (← number? bytes 2 (place + 32))
  if bytes.size < next then none
  let nameBytes := bytes.extract (place + 46) nameEnd
  let listing : Listing := {
    nameBytes
    name := textOf utf8 nameBytes
    comment := textOf utf8 (bytes.extract fieldsEnd next)
    method := ← number? bytes 2 (place + 10)
    encrypted := (← number? bytes 2 (place + 8)) % 2 == 1
    check := ← number? bytes 4 (place + 16)
    size := ← number? bytes 4 (place + 20)
    unpackedSize := ← number? bytes 4 (place + 24)
    header := ← number? bytes 4 (place + 42) }
  let listing ← listing.extended? bytes fieldsEnd bytes.size nameEnd
  if listing.method = sealedMethod ∧ !listing.isSealed then none
  return (listing, next)

end ReportSheets.Archive
