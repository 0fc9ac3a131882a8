namespace ReportSheets.Archive

def littleEndian : Nat → Nat → List UInt8
  | 0, _ => []
  | width + 1, value => value.toUInt8 :: littleEndian width (value / 256)

def number? (bytes : ByteArray) : Nat → Nat → Option Nat
  | 0, _ => some 0
  | width + 1, place => do
    let low ← bytes[place]?
    return low.toNat + 256 * (← number? bytes width (place + 1))

def fields (values : List (Nat × Nat)) : ByteArray :=
  (values.flatMap fun (width, value) => littleEndian width value).toByteArray

def firstFrom {α : Type} (find : Nat → Option α) (place : Nat) : Nat → Option α
  | 0 => none
  | count + 1 =>
    match find place with
    | some found => some found
    | none => firstFrom find (place + 1) count

def partMark : Nat := 0x04034B50

def directoryMark : Nat := 0x02014B50

def endMark : Nat := 0x06054B50

def largeEndMark : Nat := 0x06064B50

def locatorMark : Nat := 0x07064B50

end ReportSheets.Archive
