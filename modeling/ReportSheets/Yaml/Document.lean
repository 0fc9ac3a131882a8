import ReportSheets.Yaml.Layout
import ReportSheets.Yaml.Node

namespace ReportSheets.Yaml

def withLineFeeds : List Char → List Char
  | [] => []
  | '\r' :: '\n' :: rest => '\n' :: withLineFeeds rest
  | c :: rest => (if c = '\r' ∨ c = '\u0085' then '\n' else c) :: withLineFeeds rest

def isAllowed (c : Char) : Bool :=
  let n := c.toNat
  c == '\t' || c == '\n' || c == '\r' || (0x20 ≤ n && n ≤ 0x7E) || n == 0x85 ||
    (0xA0 ≤ n && n ≤ 0xFFFD) || 0x10000 ≤ n

def dropMark : List Char → List Char
  | c :: rest => if c = '\ufeff' then rest else c :: rest
  | [] => []

structure Document where
  root : Node := .empty
  anchors : Anchors := {}

namespace Document

def text? (document : Document) : Node → Option (List Char)
  | .empty => some []
  | .scalar text => some text
  | .alias number => document.anchors.text? number
  | _ => none

/-- The handles that the directives at the start declare, and the tokens after the mark that follows
them. The version is given at most once, and each handle is. -/
def declared? (versioned : Bool) (handles : List (List Char)) :
    List Token → Option (List (List Char) × List Token)
  | .version major minor :: rest =>
    if versioned || major != 1 || (minor != 1 && minor != 2) then none
    else declared? true handles rest
  | .handle handle :: rest =>
    if handles.contains handle then none else declared? versioned (handle :: handles) rest
  | .documentStart :: rest => some (handles, rest)
  | _ => none

def isDirective : Token → Bool
  | .version _ _ => true
  | .handle _ => true
  | _ => false

def isMarked (tokens : List Token) : Bool :=
  tokens.head?.any fun token => isDirective token || token == .documentStart

/-- The node of a marked document is empty when nothing follows the mark. -/
def root? (marked : Bool) (s : Stream) : Option (Node × Stream) :=
  if marked && (s.tokens.isEmpty || isMarked s.tokens || s.tokens.head? == some .documentEnd) then
    some (.empty, s)
  else s.node? (2 * s.tokens.length + 2) true false

def ofTokens? (tokens : List Token) : Option Document :=
  if tokens.isEmpty then some {}
  else do
    let marked := isMarked tokens
    let (handles, tokens) ← if marked then declared? false [] tokens else some ([], tokens)
    let (root, s) ← root? marked { tokens, handles := handles ++ knownHandles }
    if s.tokens.all (· == .documentEnd) then some { root, anchors := s.anchors } else none

def ofText? (text : String) : Option Document :=
  let characters := dropMark text.toList
  if characters.all isAllowed then (tokens? (withLineFeeds characters)).bind ofTokens? else none

end Document

end ReportSheets.Yaml
