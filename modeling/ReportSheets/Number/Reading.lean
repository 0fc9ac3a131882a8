import ReportSheets.Number.Binary64
import ReportSheets.Text.Integer

namespace ReportSheets

namespace Binary64

/-- `coefficient * 10 ^ exponent`; an exponent far outside the range decides without powers. -/
def ofDecimal (negative : Bool) (coefficient : Nat) (exponent : Int) : Binary64 :=
  let size : Int := (Text.natural coefficient).length
  if coefficient = 0 ∨ size + exponent < -330 then .finite negative .zero
  else if 310 < size + exponent then .infinite negative
  else ofRatio negative (coefficient * Nat.pow 10 exponent.toNat) (Nat.pow 10 (-exponent).toNat)

def readExponent? (text : List Char) : Option Int :=
  match text with
  | [] => some 0
  | mark :: rest =>
    if mark = 'e' ∨ mark = 'E' then
      match rest with
      | '+' :: digits => (Text.readNatural? digits).map Int.ofNat
      | '-' :: digits => (Text.readNatural? digits).map fun n => -Int.ofNat n
      | digits => (Text.readNatural? digits).map Int.ofNat
    else none

def readUnsigned? (negative : Bool) (text : List Char) : Option Binary64 :=
  let lower := text.map Char.toLower
  if lower = "inf".toList ∨ lower = "infinity".toList then some (.infinite negative)
  else if lower = "nan".toList then some .nan
  else
    let whole := text.takeWhile Text.isDigit
    let rest := text.dropWhile Text.isDigit
    let (fraction, rest) := match rest with
      | '.' :: more => (more.takeWhile Text.isDigit, more.dropWhile Text.isDigit)
      | more => ([], more)
    if whole.isEmpty && fraction.isEmpty then none
    else
      (readExponent? rest).map fun exponent =>
        ofDecimal negative (Text.naturalOf (whole ++ fraction)) (exponent - fraction.length)

def read? (text : List Char) : Option Binary64 :=
  match text with
  | '-' :: rest => readUnsigned? true rest
  | '+' :: rest => readUnsigned? false rest
  | rest => readUnsigned? false rest

end Binary64

end ReportSheets
