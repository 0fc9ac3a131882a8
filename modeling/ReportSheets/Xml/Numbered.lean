import ReportSheets.Text.Blank
import ReportSheets.Text.Integer

namespace ReportSheets.Xml

def numbered (c : Char) : List Char :=
  '_' :: 'x' :: Text.padded 4 ((Nat.toDigits 16 c.toNat).map Char.toUpper) ++ ['_']

def isUnwritable (c : Char) : Bool := c.toNat < 0x20 && c != '\t' && c != '\n'

def writeNumbered (text : List Char) : List Char :=
  text.flatMap fun c => if isUnwritable c then numbered c else [c]

/-- The low line that would close the number is not looked for. -/
def beginsNumbered : List Char → Bool
  | '_' :: 'x' :: a :: b :: c :: d :: _ =>
    [a, b, c, d].all fun h => (Text.hexDigit? h).isSome
  | _ => false

/-- Keeps apart what is in a text and what stands for one of its characters. -/
def maskNumbered : List Char → List Char
  | [] => []
  | c :: rest =>
    (if beginsNumbered (c :: rest) then numbered c else [c]) ++ maskNumbered rest

/-- The character of two hexadecimal digits, the first of which may be a plus sign. -/
def characterOfHex? (high low : Char) : Option Char := do
  let low ← Text.hexDigit? low
  if high = '+' then return Char.ofNat low
  else return Char.ofNat (16 * (← Text.hexDigit? high) + low)

def readNumbered : List Char → List Char
  | '_' :: 'x' :: '0' :: '0' :: high :: low :: '_' :: rest =>
    match characterOfHex? high low with
    | some c => c :: readNumbered rest
    | none => '_' :: readNumbered ('x' :: '0' :: '0' :: high :: low :: '_' :: rest)
  | c :: rest => c :: readNumbered rest
  | [] => []

end ReportSheets.Xml
