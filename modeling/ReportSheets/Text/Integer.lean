namespace ReportSheets.Text

def isDigit (c : Char) : Bool := '0' ≤ c && c ≤ '9'

def digitValue (c : Char) : Nat := c.toNat - '0'.toNat

def naturalOf (digits : List Char) : Nat :=
  digits.foldl (fun n c => 10 * n + digitValue c) 0

def readNatural? (text : List Char) : Option Nat :=
  if !text.isEmpty && text.all isDigit then some (naturalOf text) else none

def readCount? (limit : Nat) (text : List Char) : Option Nat :=
  let digits := match text with
    | '+' :: rest => rest
    | rest => rest
  (readNatural? digits).filter (· ≤ limit)

def readInteger? (least greatest : Int) (text : List Char) : Option Int :=
  let value := match text with
    | '+' :: rest => (readNatural? rest).map Int.ofNat
    | '-' :: rest => (readNatural? rest).map fun n => -Int.ofNat n
    | rest => (readNatural? rest).map Int.ofNat
  value.filter fun n => least ≤ n && n ≤ greatest

def hexDigit? (c : Char) : Option Nat :=
  if isDigit c then some (digitValue c)
  else if 'a' ≤ c ∧ c ≤ 'f' then some (c.toNat - 'a'.toNat + 10)
  else if 'A' ≤ c ∧ c ≤ 'F' then some (c.toNat - 'A'.toNat + 10)
  else none

def readHex? (digits : List Char) : Option Nat :=
  if digits = [] then none
  else (digits.mapM hexDigit?).map fun values => values.foldl (fun n d => 16 * n + d) 0

def natural (n : Nat) : List Char := Nat.toDigits 10 n

def integer (n : Int) : List Char :=
  if n < 0 then '-' :: natural n.natAbs else natural n.natAbs

def padded (width : Nat) (digits : List Char) : List Char :=
  List.replicate (width - digits.length) '0' ++ digits

end ReportSheets.Text
