import ReportSheets.Error
import ReportSheets.Number.Plain
import ReportSheets.Text.Blank

namespace ReportSheets

inductive AffixPhase
  | before
  | digits
  | after
deriving DecidableEq

def AffixPhase.literal : AffixPhase → AffixPhase
  | .before => .before
  | .digits | .after => .after

structure AffixedDigits where
  before : List Char := []
  digits : List Char := []
  after : List Char := []
deriving DecidableEq

namespace AffixedDigits

def put (phase : AffixPhase) (c : Char) (parts : AffixedDigits) : AffixedDigits :=
  match phase with
  | .before => { parts with before := c :: parts.before }
  | .digits => { parts with digits := c :: parts.digits }
  | .after => { parts with after := c :: parts.after }

def isPlaceholder (c : Char) : Bool := c == '#' || c == '0' || c == ',' || c == '.'

def scan : AffixPhase → Bool → List Char → Except PatternFault AffixedDigits
  | _, true, [] => .error .unterminatedQuote
  | _, false, [] => .ok {}
  | phase, quoted, '\'' :: '\'' :: rest =>
    (scan phase.literal quoted rest).map (put phase.literal '\'')
  | phase, quoted, '\'' :: rest => scan phase.literal (!quoted) rest
  | phase, quoted, c :: rest =>
    if quoted || !isPlaceholder c then (scan phase.literal quoted rest).map (put phase.literal c)
    else
      match phase with
      | .after => .error .digitInSuffix
      | _ => (scan .digits quoted rest).map (put .digits c)

def read (subpattern : List Char) : Except PatternFault AffixedDigits :=
  scan .before false subpattern

end AffixedDigits

structure DigitShape where
  minWhole : Nat
  minFraction : Nat
  maxFraction : Nat
  grouping : Nat
  /-- The run ends in its point, which is then always written. -/
  barePoint : Bool
deriving DecidableEq

namespace DigitShape

def countWhole : Nat → List Char → Except PatternFault Nat
  | required, [] => .ok required
  | required, '0' :: rest => countWhole (required + 1) rest
  | required, '#' :: rest =>
    if required = 0 then countWhole required rest else .error .optionalAfterRequired
  | required, _ :: rest => countWhole required rest

def groupSize (whole : List Char) : Except PatternFault Nat :=
  if ',' ∈ whole then
    let size := (whole.reverse.takeWhile (· != ',')).length
    if size = 0 then .error .groupingAtEnd else .ok size
  else .ok 0

def countFraction : Nat → Nat → List Char → Except PatternFault (Nat × Nat)
  | least, most, [] => .ok (least, most)
  | least, most, '0' :: rest =>
    if least < most then .error .requiredAfterOptional
    else countFraction (least + 1) (most + 1) rest
  | least, most, '#' :: rest => countFraction least (most + 1) rest
  | _, _, _ :: _ => .error .groupingInFraction

def read (run : List Char) : Except PatternFault DigitShape := do
  let (whole, fraction) := match Text.cutAt '.' run with
    | some (whole, fraction) => (whole, some fraction)
    | none => (run, none)
  if '.' ∈ fraction.getD [] then throw .secondPoint
  let minWhole ← countWhole 0 whole
  let grouping ← groupSize whole
  let (minFraction, maxFraction) ← countFraction 0 0 (fraction.getD [])
  return { minWhole, minFraction, maxFraction, grouping, barePoint := fraction = some [] }

end DigitShape

structure NumberPattern where
  before : List Char
  after : List Char
  negative : Option (List Char × List Char)
  shape : DigitShape
  multiplier : Nat
deriving DecidableEq

namespace NumberPattern

/-- A percent sign in the literal text asks for hundredths, a per mille sign for thousandths. -/
def multiplierOf (literal : List Char) : Nat :=
  if '%' ∈ literal then 100 else if '‰' ∈ literal then 1000 else 1

def read (pattern : List Char) : Except PatternFault NumberPattern := do
  if pattern = [] then throw .empty
  let (positive, negative) := match Text.cutAt ';' pattern with
    | some (positive, negative) => (positive, some negative)
    | none => (pattern, none)
  let parts ← AffixedDigits.read positive
  let shape ← DigitShape.read parts.digits
  let negative ← match negative with
    | none => pure none
    | some subpattern => do
      let parts ← AffixedDigits.read subpattern
      pure (some (parts.before, parts.after))
  return {
    before := parts.before
    after := parts.after
    negative
    shape
    multiplier := multiplierOf (parts.before ++ parts.after) }

def parse (pattern : String) : Except Error NumberPattern :=
  match read pattern.toList with
  | .ok compiled => .ok compiled
  | .error fault => .error (.pattern pattern fault)

end NumberPattern

end ReportSheets
