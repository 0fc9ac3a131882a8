import ReportSheets.Text.Encoding.Japanese
import ReportSheets.Text.Encoding.Korean
import ReportSheets.Text.Encoding.SimplifiedChinese
import ReportSheets.Text.Encoding.SingleByte
import ReportSheets.Text.Encoding.TraditionalChinese
import ReportSheets.Text.Integer

namespace ReportSheets.Text

inductive Encoding
  | utf8
  | utf16 (highFirst : Bool)
  | single (table : ByteTable)
  | shiftJis
  | eucJp
  | iso2022Jp
  | korean
  | simplifiedChinese
  | traditionalChinese
  | refused

namespace Encoding

def utf8? (bytes : List Char) : Option (List Char) :=
  if bytes.all fun c => c.toNat < 0x80 then some bytes
  else (String.fromUTF8? (bytes.map fun c => c.toNat.toUInt8).toByteArray).map String.toList

def units? (highFirst : Bool) : List Char → Option (List Nat)
  | [] => some []
  | [_] => none
  | a :: b :: rest =>
    let unit := if highFirst then 256 * a.toNat + b.toNat else a.toNat + 256 * b.toNat
    (units? highFirst rest).map (unit :: ·)

def isHighHalf (unit : Nat) : Bool := 0xD800 ≤ unit && unit < 0xDC00

def isLowHalf (unit : Nat) : Bool := 0xDC00 ≤ unit && unit < 0xE000

def ofUnits? : List Nat → Option (List Char)
  | [] => some []
  | unit :: rest =>
    if isLowHalf unit then none
    else if isHighHalf unit then
      match rest with
      | low :: rest =>
        if isLowHalf low then
          (ofUnits? rest).map (Char.ofNat (0x10000 + 1024 * (unit - 0xD800) + (low - 0xDC00)) :: ·)
        else none
      | [] => none
    else (ofUnits? rest).map (Char.ofNat unit :: ·)

def halfKana (index : Nat) : Char := Char.ofNat (0xFF61 + index)

def isHalfKana (byte : Nat) : Bool := 0xA1 ≤ byte && byte ≤ 0xDF

/-- The character of two bytes; the places behind the common rows are set apart for private use. -/
def shiftJisPair? (lead trail : Nat) : Option Char :=
  let leads := if lead < 0xA0 then lead - 0x81 else lead - 0xC1
  let trails := if trail < 0x7F then trail - 0x40 else trail - 0x41
  let place := 188 * leads + trails
  if lead < 0x81 ∨ lead = 0xA0 ∨ 0xFC < lead ∨ trail < 0x40 ∨ trail = 0x7F ∨ 0xFC < trail then none
  else if 8836 ≤ place ∧ place ≤ 10715 then some (Char.ofNat (0xE000 + (place - 8836)))
  else Japanese.common? place

def shiftJis? : List Char → Option (List Char)
  | [] => some []
  | c :: rest =>
    if c.toNat ≤ 0x80 then (shiftJis? rest).map (c :: ·)
    else if isHalfKana c.toNat then (shiftJis? rest).map (halfKana (c.toNat - 0xA1) :: ·)
    else
      match rest with
      | [] => none
      | d :: rest => do return (← shiftJisPair? c.toNat d.toNat) :: (← shiftJis? rest)

def rowPlace? (first : Nat) (lead trail : Char) : Option Nat :=
  let inRow := fun (c : Char) => first ≤ c.toNat && c.toNat < first + Japanese.rowWidth
  if inRow lead && inRow trail then
    some (Japanese.rowWidth * (lead.toNat - first) + (trail.toNat - first))
  else none

def eucJp? : List Char → Option (List Char)
  | [] => some []
  | c :: rest =>
    if c.toNat < 0x80 then (eucJp? rest).map (c :: ·)
    else
      match rest with
      | [] => none
      | d :: rest =>
        if c.toNat = 0x8E then
          if isHalfKana d.toNat then (eucJp? rest).map (halfKana (d.toNat - 0xA1) :: ·) else none
        else if c.toNat = 0x8F then
          match rest with
          | [] => none
          | e :: rest => do
            return (← (rowPlace? 0xA1 d e).bind Japanese.further?) :: (← eucJp? rest)
        else do return (← (rowPlace? 0xA1 c d).bind Japanese.common?) :: (← eucJp? rest)

inductive ChosenSet
  | ascii
  | roman
  | kana
  | common

def escape? : List Char → Option (ChosenSet × List Char)
  | '(' :: 'B' :: rest => some (.ascii, rest)
  | '(' :: 'J' :: rest => some (.roman, rest)
  | '(' :: 'I' :: rest => some (.kana, rest)
  | '$' :: '@' :: rest => some (.common, rest)
  | '$' :: 'B' :: rest => some (.common, rest)
  | _ => none

def setCharacter? (chosen : ChosenSet) (c : Char) : Option Char :=
  let plain := if c.toNat < 0x80 ∧ c ≠ '\x0e' ∧ c ≠ '\x0f' then some c else none
  match chosen with
  | .ascii => plain
  | .roman => if c = '\\' then some '¥' else if c = '~' then some '‾' else plain
  | .kana =>
    if 0x21 ≤ c.toNat ∧ c.toNat ≤ 0x5F then some (halfKana (c.toNat - 0x21)) else none
  | .common => none

/-- A text with escapes, of which no two may follow each other; `escaped` tells that one came
before. Each step takes a character off at least, of which `fuel` bounds the number. -/
def iso2022Jp? (chosen : ChosenSet) (escaped : Bool) : Nat → List Char → Option (List Char)
  | 0, text => if text = [] then some [] else none
  | _, [] => some []
  | fuel + 1, c :: rest =>
    if c = '\x1b' then
      if escaped then none
      else (escape? rest).bind fun (chosen, rest) => iso2022Jp? chosen true fuel rest
    else
      match chosen, rest with
      | .common, [] => none
      | .common, d :: rest => do
        return (← (rowPlace? 0x21 c d).bind Japanese.common?) ::
          (← iso2022Jp? chosen false fuel rest)
      | _, _ => do return (← setCharacter? chosen c) :: (← iso2022Jp? chosen false fuel rest)

def pairs? (pair? : Nat → Nat → Option (List Char)) : List Char → Option (List Char)
  | [] => some []
  | c :: rest =>
    if c.toNat < 0x80 then (pairs? pair? rest).map (c :: ·)
    else
      match rest with
      | [] => none
      | d :: rest => do return (← pair? c.toNat d.toNat) ++ (← pairs? pair? rest)

def isLead (byte : Nat) : Bool := 0x81 ≤ byte && byte ≤ 0xFE

def koreanPair? (lead trail : Nat) : Option (List Char) :=
  if isLead lead ∧ 0x41 ≤ trail ∧ trail ≤ 0xFE then
    (Korean.character? (Korean.rowWidth * (lead - 0x81) + (trail - 0x41))).map ([·])
  else none

def traditionalChinesePair? (lead trail : Nat) : Option (List Char) :=
  let inFirstPart := 0x40 ≤ trail && trail ≤ 0x7E
  if isLead lead && (inFirstPart || (0xA1 ≤ trail && trail ≤ 0xFE)) then
    TraditionalChinese.characters? (TraditionalChinese.rowWidth * (lead - 0x81) +
      (trail - if inFirstPart then 0x40 else 0x62))
  else none

def simplifiedChinesePair? (lead trail : Nat) : Option Char :=
  let inFirstPart := 0x40 ≤ trail && trail ≤ 0x7E
  if isLead lead && (inFirstPart || (0x80 ≤ trail && trail ≤ 0xFE)) then
    SimplifiedChinese.character? (SimplifiedChinese.rowWidth * (lead - 0x81) +
      (trail - if inFirstPart then 0x40 else 0x41))
  else none

def fourBytes? (a b c d : Char) : Option Char :=
  if isLead a.toNat && isDigit b && isLead c.toNat && isDigit d then
    SimplifiedChinese.longCharacter? (10 * (126 * (10 * (a.toNat - 0x81) + digitValue b) +
      (c.toNat - 0x81)) + digitValue d)
  else none

def simplifiedChinese? : List Char → Option (List Char)
  | [] => some []
  | a :: rest =>
    if a.toNat < 0x80 then (simplifiedChinese? rest).map (a :: ·)
    else if a.toNat = 0x80 then (simplifiedChinese? rest).map ('€' :: ·)
    else
      match rest with
      | b :: c :: d :: rest =>
        if isDigit b then do return (← fourBytes? a b c d) :: (← simplifiedChinese? rest)
        else do
          return (← simplifiedChinesePair? a.toNat b.toNat) ::
            (← simplifiedChinese? (c :: d :: rest))
      | b :: rest => do
        return (← simplifiedChinesePair? a.toNat b.toNat) :: (← simplifiedChinese? rest)
      | [] => none

def decode? (encoding : Encoding) (bytes : List Char) : Option (List Char) :=
  match encoding with
  | .utf8 => utf8? bytes
  | .utf16 highFirst => (units? highFirst bytes).bind ofUnits?
  | .single table => bytes.mapM fun c => table.character? c.toNat
  | .shiftJis => shiftJis? bytes
  | .eucJp => eucJp? bytes
  | .iso2022Jp => iso2022Jp? .ascii false bytes.length bytes
  | .korean => pairs? koreanPair? bytes
  | .simplifiedChinese => simplifiedChinese? bytes
  | .traditionalChinese => pairs? traditionalChinesePair? bytes
  | .refused => if bytes = [] then some [] else none

def labelled : List (Encoding × List String) :=
  [(.utf8, ["unicode-1-1-utf-8", "unicode11utf8", "unicode20utf8", "utf-8", "utf8",
      "x-unicode20utf8"]),
    (.utf16 true, ["unicodefffe", "utf-16be"]),
    (.utf16 false, ["csunicode", "iso-10646-ucs-2", "ucs-2", "unicode", "unicodefeff", "utf-16",
      "utf-16le"]),
    (.shiftJis, ["csshiftjis", "ms932", "ms_kanji", "shift-jis", "shift_jis", "sjis", "windows-31j",
      "x-sjis"]),
    (.eucJp, ["cseucpkdfmtjapanese", "euc-jp", "x-euc-jp"]),
    (.iso2022Jp, ["csiso2022jp", "iso-2022-jp"]),
    (.korean, ["cseuckr", "csksc56011987", "euc-kr", "iso-ir-149", "korean", "ks_c_5601-1987",
      "ks_c_5601-1989", "ksc5601", "ksc_5601", "windows-949"]),
    (.simplifiedChinese, ["chinese", "csgb2312", "csiso58gb231280", "gb18030", "gb2312", "gb_2312",
      "gb_2312-80", "gbk", "iso-ir-58", "x-gbk"]),
    (.traditionalChinese, ["big5", "big5-hkscs", "cn-big5", "csbig5", "x-x-big5"]),
    (.refused, ["csiso2022kr", "hz-gb-2312", "iso-2022-cn", "iso-2022-cn-ext", "iso-2022-kr",
      "replacement"])]

def isPadding (c : Char) : Bool := c == ' ' || c == '\t' || c == '\n' || c == '\x0c' || c == '\r'

def ofLabel? (label : List Char) : Option Encoding :=
  let inner := ((label.dropWhile isPadding).reverse.dropWhile isPadding).reverse
  let name := String.ofList (inner.map Char.toLower)
  match labelled.find? fun entry => entry.2.contains name with
  | some entry => some entry.1
  | none => (ByteTable.all.find? fun table => table.labels.contains name).map .single

end Encoding

end ReportSheets.Text
