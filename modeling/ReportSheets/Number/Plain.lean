import ReportSheets.Number.Binary64
import ReportSheets.Text.Integer

namespace ReportSheets

structure Decimal where
  coefficient : Nat
  exponent : Int
deriving DecidableEq

namespace Decimal

def positional (d : Decimal) : List Char :=
  let digits := Text.natural d.coefficient
  match d.exponent with
  | .ofNat n => digits ++ List.replicate n '0'
  | .negSucc n =>
    let digits := Text.padded (n + 2) digits
    let whole := digits.length - (n + 1)
    digits.take whole ++ '.' :: digits.drop whole

end Decimal

namespace Magnitude

def gapBelow (m : Magnitude) : Nat :=
  if m.significand = 0x10000000000000 ∧ m.scale ≠ 0 then Nat.pow 2 m.scale
  else 2 * Nat.pow 2 m.scale

def gapAbove (m : Magnitude) : Nat := 2 * Nat.pow 2 m.scale

/-- A decimal that rounds to `m`: it lies between the middles to both neighbours, and on a middle
only when the significand is even. Distances are in quarter units. -/
def isWrittenBy (m : Magnitude) (d : Decimal) : Bool :=
  let up := Nat.pow 10 d.exponent.toNat
  let down := Nat.pow 10 (-d.exponent).toNat
  let value := d.coefficient * up * (4 * unitsPerOne)
  let low := (4 * m.units - m.gapBelow) * down
  let high := (4 * m.units + m.gapAbove) * down
  if m.significand % 2 = 0 then low ≤ value && value ≤ high else low < value && value < high

/-- The two multiples of `10 ^ exponent` around `m`, the nearer one first, the larger of two
equally near. -/
def neighbours (m : Magnitude) (exponent : Int) : List Decimal :=
  let step := Nat.pow 10 exponent.toNat * unitsPerOne
  let value := m.units * Nat.pow 10 (-exponent).toNat
  let lower : Decimal := ⟨value / step, exponent⟩
  let upper : Decimal := ⟨value / step + 1, exponent⟩
  if 2 * (value % step) < step then [lower, upper] else [upper, lower]

def topExponent (m : Magnitude) : Int :=
  ((m.units.log2 : Int) - 1074) * 30103 / 100000 + 2

/-- The decimal with the fewest digits that reads back as `m`, the nearest one of those. -/
def shortest (m : Magnitude) : Decimal :=
  ((List.range 32).findSome? fun (place : Nat) =>
    (m.neighbours (m.topExponent - place)).find? m.isWrittenBy).getD ⟨0, 0⟩

def fixed (m : Magnitude) (places : Nat) : List Char × List Char :=
  let parts := Nat.pow 10 places
  let scaled := roundHalfEven (m.units * parts) unitsPerOne
  (Text.natural (scaled / parts),
    if places = 0 then [] else Text.padded places (Text.natural (scaled % parts)))

end Magnitude

namespace Binary64

def unsignedText : Binary64 → List Char
  | .nan => "NaN".toList
  | .infinite _ => "inf".toList
  | .finite _ m => if m.significand = 0 then ['0'] else m.shortest.positional

def text : Binary64 → List Char
  | .nan => "NaN".toList
  | .infinite negative => (if negative then ['-'] else []) ++ "inf".toList
  | .finite negative m => (if negative then ['-'] else []) ++ unsignedText (.finite false m)

end Binary64

end ReportSheets
