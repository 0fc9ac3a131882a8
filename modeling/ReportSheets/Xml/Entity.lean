import ReportSheets.Text.Integer
import ReportSheets.Text.Blank

namespace ReportSheets.Xml

def named? (name : List Char) : Option Char :=
  if name = "amp".toList then some '&'
  else if name = "lt".toList then some '<'
  else if name = "gt".toList then some '>'
  else if name = "apos".toList then some '\''
  else if name = "quot".toList then some '"'
  else none

def character? (code : Nat) : Option Char :=
  if h : code ≠ 0 ∧ code.isValidChar then some (Char.ofNatAux code h.2) else none

def reference? : List Char → Option Char
  | '#' :: 'x' :: digits => (Text.readHex? digits).bind character?
  | '#' :: digits => (Text.readNatural? digits).bind character?
  | name => named? name

/-- A text with its references resolved; `pending` is the reference begun, in reverse. -/
def unescapeFrom (pending : Option (List Char)) : List Char → Option (List Char)
  | [] => if pending.isNone then some [] else none
  | c :: rest =>
    match pending with
    | none =>
      if c = '&' then unescapeFrom (some []) rest
      else (unescapeFrom none rest).map (c :: ·)
    | some begun =>
      if c = ';' then
        (reference? begun.reverse).bind fun resolved =>
          (unescapeFrom none rest).map (resolved :: ·)
      else if c = '&' then none
      else unescapeFrom (some (c :: begun)) rest

def unescape? (text : List Char) : Option (List Char) := unescapeFrom none text

def escape (text : List Char) : List Char :=
  text.flatMap fun c =>
    if c = '&' then "&amp;".toList
    else if c = '<' then "&lt;".toList
    else if c = '>' then "&gt;".toList
    else if c = '"' then "&quot;".toList
    else [c]

end ReportSheets.Xml
