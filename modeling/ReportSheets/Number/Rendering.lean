import ReportSheets.Number.Pattern

namespace ReportSheets

def groupDigits (size : Nat) : List Char → List Char
  | [] => []
  | c :: rest =>
    if size ≠ 0 ∧ rest ≠ [] ∧ rest.length % size = 0 then c :: ',' :: groupDigits size rest
    else c :: groupDigits size rest

/-- Fraction digits without the zeros at the end that go beyond `least` digits. -/
def dropZeros (least : Nat) (digits : List Char) : List Char :=
  digits.take least ++ ((digits.drop least).reverse.dropWhile (· == '0')).reverse

namespace DigitShape

def layOut (shape : DigitShape) (whole fraction : List Char) : List Char :=
  let whole := Text.padded shape.minWhole (whole.dropWhile (· == '0'))
  let fraction := dropZeros shape.minFraction fraction
  let whole := if whole = [] ∧ fraction = [] then ['0'] else whole
  groupDigits shape.grouping whole ++
    if fraction ≠ [] ∨ shape.barePoint then '.' :: fraction else []

def body (shape : DigitShape) : Binary64 → List Char
  | .finite _ m =>
    let (whole, fraction) := m.fixed shape.maxFraction
    shape.layOut whole fraction
  | value => shape.layOut value.unsignedText []

end DigitShape

namespace NumberPattern

def affixes (p : NumberPattern) (negative : Bool) : List Char × List Char :=
  if negative then p.negative.getD ('-' :: p.before, p.after) else (p.before, p.after)

def render (p : NumberPattern) (n : Binary64) : List Char :=
  let (before, after) := p.affixes n.isNegative
  match n with
  | .nan => "NaN".toList
  | .infinite _ => before ++ '∞' :: after
  | .finite .. => before ++ p.shape.body (n.abs.scaleBy p.multiplier) ++ after

end NumberPattern

/-- Field patterns write an optional digit as `Z` and a required one as `9`, and may stand between
double quotes. -/
def fieldPattern (pattern : List Char) : List Char :=
  (pattern.filter (· != '"')).map fun c => if c = 'Z' then '#' else if c = '9' then '0' else c

def formatNumber (n : Binary64) (pattern : String) : Except Error String :=
  if pattern = "" then .error .emptyPattern
  else (NumberPattern.parse (String.ofList (fieldPattern pattern.toList))).map fun compiled =>
    String.ofList (compiled.render n)

end ReportSheets
