import ReportSheets.Yaml.Token

namespace ReportSheets.Yaml

inductive Node
  | empty
  | scalar (text : List Char)
  | alias (number : Nat)
  | sequence (items : List Node)
  | mapping (entries : List (Node × Node))

/-- The anchors of a document. The number of an anchor is that of the names before it, and of two
anchors with one number or one name the later counts. -/
structure Anchors where
  numbers : List (List Char × Nat) := []
  texts : List (Nat × Option (List Char)) := []

namespace Anchors

def number? (anchors : Anchors) (name : List Char) : Option Nat :=
  (anchors.numbers.find? fun entry => entry.1 == name).map (·.2)

def text? (anchors : Anchors) (number : Nat) : Option (List Char) :=
  (anchors.texts.find? fun entry => entry.1 == number).bind (·.2)

def add (anchors : Anchors) (name : List Char) (text : Option (List Char)) : Anchors :=
  let number := anchors.numbers.length
  { numbers := (name, number) :: anchors.numbers.filter fun entry => entry.1 != name
    texts := (number, text) :: anchors.texts }

end Anchors

structure Stream where
  tokens : List Token
  handles : List (List Char)
  anchors : Anchors := {}

namespace Stream

structure Properties where
  anchor : Option (List Char) := none
  tag : Option (List Char) := none

def properties : List Token → Properties × List Token
  | .anchor name :: .tag handle :: rest => ({ anchor := some name, tag := some handle }, rest)
  | .tag handle :: .anchor name :: rest => ({ anchor := some name, tag := some handle }, rest)
  | .anchor name :: rest => ({ anchor := some name }, rest)
  | .tag handle :: rest => ({ tag := some handle }, rest)
  | rest => ({}, rest)

def after (s : Stream) (tokens : List Token) (anchor : Option (List Char))
    (text : Option (List Char)) : Stream :=
  match anchor with
  | some name => { s with tokens, anchors := s.anchors.add name text }
  | none => { s with tokens }

abbrev Reading := Stream → Option (Node × Stream)

def nodeUnless? (ends : Token → Bool) (node : Reading) (s : Stream) : Option (Node × Stream) :=
  if s.tokens.head?.any ends then some (.empty, s) else node s

def endsInBlock (token : Token) : Bool :=
  token == .item || token == .key || token == .value || token == .blockEnd

def endsEntry (token : Token) : Bool :=
  token == .key || token == .value || token == .blockEnd

def endsInBrackets (token : Token) : Bool := token == .comma || token == .closeBracket

def endsInBraces (token : Token) : Bool := token == .comma || token == .closeBrace

def valueUnless? (ends : Token → Bool) (node : Reading) (s : Stream) : Option (Node × Stream) :=
  match s.tokens with
  | .value :: rest => nodeUnless? ends node { s with tokens := rest }
  | _ => some (.empty, s)

def items? (node : Reading) : Nat → Stream → Option (List Node × Stream)
  | 0, _ => none
  | fuel + 1, s =>
    match s.tokens with
    | .item :: rest => do
      let (item, s) ← nodeUnless? endsInBlock node { s with tokens := rest }
      let (more, s) ← items? node fuel s
      return (item :: more, s)
    | _ => some ([], s)

def entries? (node : Reading) : Nat → Stream → Option (List (Node × Node) × Stream)
  | 0, _ => none
  | fuel + 1, s =>
    match s.tokens with
    | .key :: rest => do
      let (key, s) ← nodeUnless? endsEntry node { s with tokens := rest }
      let (value, s) ← valueUnless? endsEntry node s
      let (more, s) ← entries? node fuel s
      return ((key, value) :: more, s)
    | _ => some ([], s)

def pastBlock? (s : Stream) : Option Stream :=
  match s.tokens with
  | .blockEnd :: rest => some { s with tokens := rest }
  | _ => none

def pastComma? (first : Bool) (tokens : List Token) : Option (List Token) :=
  if first then some tokens
  else
    match tokens with
    | .comma :: rest => some rest
    | _ => none

/-- The one entry of a mapping without braces, after the mark of its key. Where the key is empty,
the token after the mark does not count. -/
def pair? (node : Reading) (s : Stream) : Option (Node × Stream) := do
  let (key, s) ← match s.tokens with
    | token :: rest =>
      if token == .value || endsInBrackets token then some (.empty, { s with tokens := rest })
      else node s
    | [] => none
  let (value, s) ← valueUnless? endsInBrackets node s
  return (.mapping [(key, value)], s)

def bracketed? (node : Reading) : Nat → Bool → Stream → Option (List Node × Stream)
  | 0, _, _ => none
  | fuel + 1, first, s =>
    match s.tokens with
    | .closeBracket :: rest => some ([], { s with tokens := rest })
    | tokens => do
      match ← pastComma? first tokens with
      | .closeBracket :: rest => return ([], { s with tokens := rest })
      | tokens =>
        let (item, s) ← match tokens with
          | .key :: rest => pair? node { s with tokens := rest }
          | _ => node { s with tokens }
        let (more, s) ← bracketed? node fuel false s
        return (item :: more, s)

def braceEntry? (node : Reading) (s : Stream) : Option ((Node × Node) × Stream) :=
  match s.tokens with
  | .key :: rest => do
    let (key, s) ← nodeUnless? (fun token => token == .value || endsInBraces token) node
      { s with tokens := rest }
    let (value, s) ← valueUnless? endsInBraces node s
    return ((key, value), s)
  | _ => (node s).map fun (key, s) => ((key, .empty), s)

def braced? (node : Reading) : Nat → Bool → Stream → Option (List (Node × Node) × Stream)
  | 0, _, _ => none
  | fuel + 1, first, s =>
    match s.tokens with
    | .closeBrace :: rest => some ([], { s with tokens := rest })
    | tokens => do
      match ← pastComma? first tokens with
      | .closeBrace :: rest => return ([], { s with tokens := rest })
      | tokens =>
        let (entry, s) ← braceEntry? node { s with tokens }
        let (more, s) ← braced? node fuel false s
        return (entry :: more, s)

/-- A node; only a `block` may open one, and the value of a key may be a sequence that is indented
no further than the key. -/
def node? : Nat → Bool → Bool → Reading
  | 0, _, _, _ => none
  | fuel + 1, block, isValue, s =>
    match s.tokens with
    | .alias name :: rest =>
      (s.anchors.number? name).map fun number => (.alias number, { s with tokens := rest })
    | _ => do
      let (found, rest) := properties s.tokens
      if found.tag.any fun handle => !s.handles.contains handle then none
      let inBlock := node? fuel true false
      let inEntry := node? fuel true true
      let inFlow := node? fuel false false
      let collection (tokens : List Token) := s.after tokens found.anchor none
      match rest with
      | .scalar text :: rest => return (.scalar text, s.after rest found.anchor (some text))
      | .openBracket :: rest =>
        let (items, s) ← bracketed? inFlow fuel true (collection rest)
        return (.sequence items, s)
      | .openBrace :: rest =>
        let (entries, s) ← braced? inFlow fuel true (collection rest)
        return (.mapping entries, s)
      | first :: more =>
        if isValue ∧ first = .item then
          let (items, s) ← items? inBlock fuel (collection rest)
          return (.sequence items, s)
        else if block ∧ first = .sequenceStart then
          let (items, s) ← items? inBlock fuel (collection more)
          return (.sequence items, ← s.pastBlock?)
        else if block ∧ first = .mappingStart then
          let (entries, s) ← entries? inEntry fuel (collection more)
          return (.mapping entries, ← s.pastBlock?)
        else if found.anchor.isSome || found.tag.isSome then
          return (.empty, s.after rest found.anchor (some []))
        else none
      | [] =>
        if found.anchor.isSome || found.tag.isSome then
          return (.empty, s.after rest found.anchor (some []))
        else none

end Stream

end ReportSheets.Yaml
