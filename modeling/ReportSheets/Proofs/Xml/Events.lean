import Mathlib.Data.List.Nodup
import ReportSheets.Proofs.Text.Bytes
import ReportSheets.Proofs.Xml.Elements
import ReportSheets.Xml.Event

namespace ReportSheets.Xml

open Text (byteText)

variable {text rest : List Char} {name : List Char} {told more : List Event}

inductive Tells : List Event → List Char → Prop
  | nil : Tells [] []
  | text {part rest : List Char} {more : List Event} (later : Tells more rest) :
      Tells (.text (some part) :: more) (part ++ rest)

namespace Tells

theorem append {others : List Event} (tells : Tells told text) (later : Tells others rest) :
    Tells (told ++ others) (text ++ rest) := by
  induction tells with
  | nil => exact later
  | text _ ih =>
    rw [List.append_assoc]
    exact .text ih

theorem textUntil (tells : Tells told text) (name : List Char) (more : List Event) :
    textUntil name (told ++ .finish name :: more) = some (text, more) := by
  induction tells with
  | nil => rw [List.nil_append, Xml.textUntil, if_pos rfl]
  | text _ ih =>
    rw [List.cons_append, Xml.textUntil, ih]
    rfl

theorem pastEnd (tells : Tells told text) (name : List Char) (depth : Nat) (more : List Event) :
    pastEnd name depth (told ++ more) = pastEnd name depth more := by
  induction tells with
  | nil => rfl
  | text _ ih => exact ih

end Tells

theorem unifyBreaks_of_plain (plain : '\r' ∉ text) : unifyBreaks text = text := by
  induction text with
  | nil => rfl
  | cons c text ih =>
    rw [List.mem_cons, not_or] at plain
    rw [unifyBreaks, ih plain.2]
    · rintro rest rfl
      exact absurd rfl plain.1
    · rintro rfl
      exact absurd rfl plain.1

theorem tells_plainEvents (plain : '\r' ∉ text) :
    Tells (plainEvents .utf8 (byteText text)) text := by
  rw [plainEvents, Text.decode?_byteText, Option.map_some, unifyBreaks_of_plain plain]
  split
  · rename_i none
    have same := Text.decode?_byteText text
    rw [none] at same
    cases same
    exact .nil
  · have whole : Tells [.text (some text)] (text ++ []) := .text .nil
    rwa [List.append_nil] at whole

def marks : List Char := ['&', '<', '>', '"']

theorem escape_append (front back : List Char) :
    escape (front ++ back) = escape front ++ escape back :=
  List.flatMap_append ..

theorem escape_of_plain (plain : ∀ c ∈ text, c ∉ marks) : escape text = text := by
  induction text with
  | nil => rfl
  | cons c text ih =>
    have later := ih fun d member => plain d (List.mem_cons_of_mem c member)
    have first := plain c List.mem_cons_self
    simp only [marks, List.mem_cons, List.not_mem_nil, or_false, not_or] at first
    obtain ⟨ampersand, less, greater, mark⟩ := first
    rw [escape] at later
    rw [escape, List.flatMap_cons, later, if_neg ampersand, if_neg less, if_neg greater,
      if_neg mark]
    rfl

theorem exists_names_of_mark {c : Char} (mark : c ∈ marks) :
    ∃ name, Names c name ∧ (∀ d ∈ name, d.toNat < 128) ∧
      ∀ rest, escape (c :: rest) = '&' :: (name ++ ';' :: escape rest) := by
  simp only [marks, List.mem_cons, List.not_mem_nil, or_false] at mark
  rcases mark with rfl | rfl | rfl | rfl
  · exact ⟨_, .ampersand, by simp, fun _ => rfl⟩
  · exact ⟨_, .less, by simp, fun _ => rfl⟩
  · exact ⟨_, .greater, by simp, fun _ => rfl⟩
  · exact ⟨_, .quote, by simp, fun _ => rfl⟩

theorem ascii_of_mark {c : Char} (mark : c ∈ marks) : c.toNat < 128 := by
  have ascii : ∀ d ∈ marks, d.toNat < 128 := by simp [marks]
  exact ascii c mark

theorem mem_byteText_of_mark {c d : Char} (mark : d ∈ marks) (member : d ∈ byteText [c]) : d = c :=
  List.mem_singleton.mp ((Text.mem_byteText_iff (ascii_of_mark mark)).1 member)

/-- The escaped bytes of a text are cut where its own marks are: `first` is what comes before the
first of them, and the references of the others tell the rest. -/
structure CutAtMarks (text first : List Char) (others : List (List Char)) (told : List Event) : Prop where
  cut : Text.pieces (· == '&') (escape (byteText text)) = byteText first :: others
  read : referenceEvents .utf8 others = (told, false)
  tells : '\r' ∉ text → ∃ rest, text = first ++ rest ∧ Tells told rest

namespace CutAtMarks

variable {c : Char} {first : List Char} {others : List (List Char)}

theorem cons_mark (marked : CutAtMarks text first others told) (mark : c ∈ marks) :
    ∃ others told, CutAtMarks (c :: text) [] others told := by
  obtain ⟨name, names, ascii, escaped⟩ := exists_names_of_mark mark
  refine ⟨(name ++ ';' :: byteText first) :: others,
    .text (some [c]) :: plainEvents .utf8 (byteText first) ++ told, ?_, ?_, fun plain => ?_⟩
  · have own : byteText [c] = [c] := Text.byteText_of_ascii fun d member =>
      List.mem_singleton.mp member ▸ ascii_of_mark mark
    have unmarked : ∀ d ∈ name ++ [';'], (d == '&') = false := by
      intro d member
      rw [beq_eq_false_iff_ne]
      rintro rfl
      rcases List.mem_append.mp member with inName | last
      · exact names.not_mem '&' (by decide) (by decide) inName
      · exact absurd last (by decide)
    have later := Text.pieces_append unmarked marked.cut
    rw [List.append_assoc, List.append_assoc] at later
    rw [Text.byteText_cons, own, List.singleton_append, escaped, Text.pieces,
      if_pos (beq_self_eq_true _)]
    exact congrArg _ later
  · have decoded := Text.decode?_byteText name
    rw [Text.byteText_of_ascii ascii] at decoded
    have ends :=
      Text.cutAt_append_mark (names.not_mem ';' (by decide) (by decide)) (byteText first)
    simp only [referenceEvents, ends, decoded, Option.bind_some, names.resolves, marked.read]
    rfl
  · rw [List.mem_cons, not_or] at plain
    obtain ⟨rest, rfl, others⟩ := marked.tells plain.2
    have begins : '\r' ∉ first := fun member => plain.2 (List.mem_append_left rest member)
    exact ⟨c :: (first ++ rest), rfl, .text ((tells_plainEvents begins).append others)⟩

theorem cons_plain (marked : CutAtMarks text first others told) (mark : c ∉ marks) :
    CutAtMarks (c :: text) (c :: first) others told := by
  refine ⟨?_, marked.read, fun plain => ?_⟩
  · have bare : escape (byteText [c]) = byteText [c] := by
      refine escape_of_plain fun d member among => mark ?_
      exact mem_byteText_of_mark among member ▸ among
    have unmarked : ∀ d ∈ byteText [c], (d == '&') = false := by
      intro d member
      rw [beq_eq_false_iff_ne]
      rintro rfl
      have among : '&' ∈ marks := by decide
      exact mark (mem_byteText_of_mark among member ▸ among)
    rw [Text.byteText_cons, escape_append, bare, Text.pieces_append unmarked marked.cut,
      Text.byteText_cons c first]
  · rw [List.mem_cons, not_or] at plain
    obtain ⟨rest, same, tells⟩ := marked.tells plain.2
    exact ⟨rest, by rw [same, List.cons_append], tells⟩

end CutAtMarks

theorem exists_cutAtMarks (text : List Char) :
    ∃ first others told, CutAtMarks text first others told := by
  induction text with
  | nil => exact ⟨[], [], [], rfl, rfl, fun _ => ⟨[], rfl, .nil⟩⟩
  | cons c text ih =>
    obtain ⟨first, others, told, marked⟩ := ih
    by_cases mark : c ∈ marks
    · exact ⟨[], marked.cons_mark mark⟩
    · exact ⟨c :: first, others, told, marked.cons_plain mark⟩

theorem textEvents_escape (text : List Char) :
    (textEvents .utf8 (escape (byteText text))).2 = false ∧
      ('\r' ∉ text → Tells (textEvents .utf8 (escape (byteText text))).1 text) := by
  obtain ⟨first, others, told, cut, read, tells⟩ := exists_cutAtMarks text
  have found : textEvents .utf8 (escape (byteText text)) =
      (plainEvents .utf8 (byteText first) ++ told, false) := by
    simp only [textEvents, cut, read]
  rw [found]
  refine ⟨rfl, fun plain => ?_⟩
  obtain ⟨rest, rfl, others⟩ := tells plain
  have begins : '\r' ∉ first := fun member => plain (List.mem_append_left rest member)
  exact (tells_plainEvents begins).append others

theorem byteText_injective {other : List Char} (same : byteText text = byteText other) :
    text = other := by
  have decoded := Text.decode?_byteText text
  rw [same, Text.decode?_byteText] at decoded
  exact (Option.some.inj decoded).symm

theorem escape_byteText (text : List Char) : escape (byteText text) = byteText (escape text) := by
  induction text with
  | nil => rfl
  | cons c text ih =>
    have split : escape (c :: text) = escape [c] ++ escape text := escape_append [c] text
    rw [Text.byteText_cons, escape_append, ih, split, Text.byteText_append]
    congr 1
    by_cases mark : c ∈ marks
    · obtain ⟨name, names, ascii, escaped⟩ := exists_names_of_mark mark
      have own : byteText [c] = [c] := Text.byteText_of_ascii fun d member =>
        List.mem_singleton.mp member ▸ ascii_of_mark mark
      rw [own, escaped, Text.byteText_of_ascii]
      intro d member
      simp only [List.mem_cons, List.mem_append, escape, List.flatMap_nil, List.not_mem_nil,
        or_false] at member
      rcases member with rfl | inName | rfl
      · decide
      · exact ascii d inName
      · decide
    · have bare : escape (byteText [c]) = byteText [c] := by
        refine escape_of_plain fun d member among => mark ?_
        exact mem_byteText_of_mark among member ▸ among
      have alone : escape [c] = [c] := escape_of_plain fun d member =>
        List.mem_singleton.mp member ▸ mark
      rw [bare, alone]

namespace Name

def encoded (name : Name) : Name where
  text := byteText name.text
  visible := by
    intro none
    exact name.visible (byteText_injective none)
  plain := by
    intro c member ends
    have all : (nameEnds.all fun d => d.toNat < 128) = true := by decide
    have small : ∀ d ∈ nameEnds, d.toNat < 128 := by simpa using all
    exact name.plain c ((Text.mem_byteText_iff (small c ends)).1 member) ends

def start (name : Name) (attributes : List (Name × List Char)) : Event :=
  .start (byteText (name.tag attributes)) .utf8

def finish (name : Name) : Event := .finish (byteText name.text)

end Name

def encodedAttributes (attributes : List (Name × List Char)) : List (Name × List Char) :=
  attributes.map fun given => (given.1.encoded, byteText given.2)

variable {attributes : List (Name × List Char)}

theorem apart_encoded (apart : Apart attributes) : Apart (encodedAttributes attributes) := by
  rw [Apart] at *
  have same : (encodedAttributes attributes).map (·.1.text) =
      (attributes.map (·.1.text)).map byteText := by
    simp only [encodedAttributes, List.map_map]
    rfl
  rw [same]
  exact List.Nodup.map (fun _ _ => byteText_injective) apart

theorem writtenAttributes_encoded (attributes : List (Name × List Char)) :
    writtenAttributes (encodedAttributes attributes) = byteText (writtenAttributes attributes) := by
  induction attributes with
  | nil => rfl
  | cons given more ih =>
    have split : ∀ given : Name × List Char, ∀ more, writtenAttributes (given :: more) =
        ' ' :: (given.1.text ++ '=' :: '"' :: (escape given.2 ++ '"' :: writtenAttributes more)) := by
      simp [writtenAttributes]
    rw [encodedAttributes, List.map_cons, split, split, Text.byteText_ascii_cons (by decide),
      Text.byteText_append, Text.byteText_ascii_cons (by decide),
      Text.byteText_ascii_cons (by decide), Text.byteText_append,
      Text.byteText_ascii_cons (by decide), ← ih, ← escape_byteText]
    rfl

namespace Name

variable (name : Name)

theorem tag_encoded (attributes : List (Name × List Char)) :
    name.encoded.tag (encodedAttributes attributes) = byteText (name.tag attributes) := by
  rw [tag, tag, writtenAttributes_encoded, Text.byteText_append]
  rfl

theorem opening_encoded (attributes : List (Name × List Char)) :
    name.encoded.opening (encodedAttributes attributes) = byteText (name.opening attributes) := by
  rw [opening, opening, tag_encoded, Text.byteText_ascii_cons (by decide), Text.byteText_append]
  rfl

theorem closing_encoded : name.encoded.closing = byteText name.closing := by
  rw [closing, closing, Text.byteText_ascii_cons (by decide), Text.byteText_ascii_cons (by decide),
    Text.byteText_append]
  rfl

theorem tagName_bytes (attributes : List (Name × List Char)) :
    tagName (byteText (name.tag attributes)) = byteText name.text := by
  rw [← tag_encoded, tagName_tag]
  rfl

theorem elementName_bytes (attributes : List (Name × List Char)) :
    elementName (byteText (name.tag attributes)) = localName (byteText name.text) := by
  rw [elementName, tagName_bytes]

theorem attributeWhere_bytes (apart : Apart attributes) (p : List Char → Bool) :
    attributeWhere p (byteText (name.tag attributes)) =
      some ((attributes.find? fun given => p (byteText given.1.text)).map fun given =>
        escape (byteText given.2)) := by
  rw [← tag_encoded, attributeWhere_tag _ (apart_encoded apart), encodedAttributes, List.find?_map,
    Option.map_map]
  rfl

end Name

section Tokens

variable {broken : Bool} {depth : Nat} {charset : Charset} {more : List Token}

theorem eventsOf_opening (content : List Char) :
    eventsOf broken depth charset (.opening content false :: more) =
      ahead [.start content charset.encoding] (eventsOf broken (depth + 1) charset more) := rfl

theorem eventsOf_closed (content : List Char) :
    eventsOf broken depth charset (.opening content true :: more) =
      ahead [.start content charset.encoding, .finish (tagName content)]
        (eventsOf broken depth charset more) := rfl

theorem eventsOf_closing (content : List Char) :
    eventsOf broken (depth + 1) charset (.closing content :: more) =
      ahead [.finish (closingName content)] (eventsOf broken depth charset more) := rfl

theorem eventsOf_textTokens (utf8 : charset.encoding = .utf8) (text : List Char) :
    eventsOf broken depth charset (textTokens (byteText text) ++ more) =
      ahead (textEvents .utf8 (escape (byteText text))).1 (eventsOf broken depth charset more) := by
  have whole := (textEvents_escape text).1
  rw [textTokens]
  split
  · rename_i none
    rw [none]
    rfl
  · rw [List.singleton_append, eventsOf, utf8]
    simp only [whole, Bool.false_eq_true, if_false]
    rfl

end Tokens

def tagsOf (told : List Event) : List (List Char) :=
  told.filterMap fun
    | .start content _ => some (elementName content)
    | _ => none

theorem tagsOf_start (content : List Char) (encoding : Text.Encoding) (more : List Event) :
    tagsOf (.start content encoding :: more) = elementName content :: tagsOf more := rfl

theorem tagsOf_append (told more : List Event) : tagsOf (told ++ more) = tagsOf told ++ tagsOf more :=
  List.filterMap_append

theorem tagsOf_plainEvents (encoding : Text.Encoding) (text : List Char) :
    tagsOf (plainEvents encoding text) = [] := by
  rw [plainEvents]
  split <;> rfl

theorem tagsOf_referenceEvents (encoding : Text.Encoding) (pieces : List (List Char)) :
    tagsOf (referenceEvents encoding pieces).1 = [] := by
  induction pieces with
  | nil => rfl
  | cons piece pieces ih =>
    rw [referenceEvents]
    split
    · rfl
    · rename_i name text cut
      show tagsOf (.text _ :: plainEvents encoding text ++ (referenceEvents encoding pieces).1) = []
      rw [tagsOf_append, ih, List.append_nil]
      exact tagsOf_plainEvents encoding text

theorem tagsOf_textEvents (encoding : Text.Encoding) (text : List Char) :
    tagsOf (textEvents encoding text).1 = [] := by
  rw [textEvents]
  split
  · rfl
  · rename_i first others cut
    show tagsOf (plainEvents encoding first ++ (referenceEvents encoding others).1) = []
    rw [tagsOf_append, tagsOf_plainEvents, tagsOf_referenceEvents]
    rfl

namespace Element

mutual

def encoded : Element → Element
  | closed name attributes => closed name.encoded (encodedAttributes attributes)
  | holding name attributes text =>
    holding name.encoded (encodedAttributes attributes) (byteText text)
  | around name attributes children =>
    around name.encoded (encodedAttributes attributes) (encodedAll children)

def encodedAll : List Element → List Element
  | [] => []
  | element :: more => element.encoded :: encodedAll more

end

mutual

def events : Element → List Event
  | closed name attributes => [name.start attributes, name.finish]
  | holding name attributes text =>
    name.start attributes :: ((textEvents .utf8 (escape (byteText text))).1 ++ [name.finish])
  | around name attributes children =>
    name.start attributes :: (eventsAll children ++ [name.finish])

def eventsAll : List Element → List Event
  | [] => []
  | element :: more => element.events ++ eventsAll more

end

mutual

theorem written_encoded (element : Element) :
    element.encoded.written = byteText element.written := by
  match element with
  | closed name attributes =>
    rw [encoded, written, written, Name.tag_encoded, Text.byteText_ascii_cons (by decide),
      Text.byteText_append]
    rfl
  | holding name attributes text =>
    rw [encoded, written, written, Name.opening_encoded, Name.closing_encoded, escape_byteText,
      Text.byteText_append, Text.byteText_append]
  | around name attributes children =>
    rw [encoded, written, written, Name.opening_encoded, Name.closing_encoded,
      writtenAll_encoded children, Text.byteText_append, Text.byteText_append]

theorem writtenAll_encoded (elements : List Element) :
    writtenAll (encodedAll elements) = byteText (writtenAll elements) := by
  match elements with
  | [] => rfl
  | element :: more =>
    rw [encodedAll, writtenAll, writtenAll, written_encoded element, writtenAll_encoded more,
      Text.byteText_append]

end

variable {broken : Bool} {depth : Nat} {charset : Charset}

mutual

theorem eventsOf_tokens (element : Element) (utf8 : charset.encoding = .utf8) (depth : Nat)
    (rest : List Token) :
    eventsOf broken depth charset (element.encoded.tokens ++ rest) =
      ahead element.events (eventsOf broken depth charset rest) := by
  match element with
  | closed name attributes =>
    rw [encoded, tokens, List.singleton_append, eventsOf_closed, Name.tagName_tag,
      Name.tag_encoded, utf8]
    rfl
  | holding name attributes text =>
    rw [encoded, tokens, List.cons_append, List.append_assoc, eventsOf_opening,
      eventsOf_textTokens utf8, List.singleton_append, eventsOf_closing, Name.closingName_text,
      Name.tag_encoded, utf8, ← ahead_append, ← ahead_append]
    rfl
  | around name attributes children =>
    rw [encoded, tokens, List.cons_append, List.append_assoc, eventsOf_opening,
      eventsOf_tokensAll children utf8, List.singleton_append, eventsOf_closing,
      Name.closingName_text, Name.tag_encoded, utf8, ← ahead_append, ← ahead_append]
    rfl

theorem eventsOf_tokensAll (elements : List Element) (utf8 : charset.encoding = .utf8)
    (depth : Nat) (rest : List Token) :
    eventsOf broken depth charset (tokensAll (encodedAll elements) ++ rest) =
      ahead (eventsAll elements) (eventsOf broken depth charset rest) := by
  match elements with
  | [] => rfl
  | element :: more =>
    rw [encodedAll, tokensAll, List.append_assoc, eventsOf_tokens element utf8,
      eventsOf_tokensAll more utf8, ← ahead_append]
    rfl

end

theorem events_around (name : Name) (attributes : List (Name × List Char))
    (children : List Element) (rest : List Event) :
    (around name attributes children).events ++ rest =
      name.start attributes :: (eventsAll children ++ name.finish :: rest) := by
  rw [events, List.cons_append, List.append_assoc, List.singleton_append]

theorem eventsAll_append (elements more : List Element) :
    eventsAll (elements ++ more) = eventsAll elements ++ eventsAll more := by
  induction elements with
  | nil => rfl
  | cons element elements ih => rw [List.cons_append, eventsAll, eventsAll, ih, List.append_assoc]

theorem eventsAll_cons (element : Element) (more : List Element) (rest : List Event) :
    eventsAll (element :: more) ++ rest = element.events ++ (eventsAll more ++ rest) := by
  rw [eventsAll, List.append_assoc]

mutual

def names : Element → List (List Char)
  | closed name _ => [localName (byteText name.text)]
  | holding name _ _ => [localName (byteText name.text)]
  | around name _ children => localName (byteText name.text) :: namesAll children

def namesAll : List Element → List (List Char)
  | [] => []
  | element :: more => element.names ++ namesAll more

end

theorem namesAll_eq (elements : List Element) : namesAll elements = elements.flatMap names := by
  induction elements with
  | nil => rfl
  | cons element more ih => rw [namesAll, ih, List.flatMap_cons]

mutual

theorem tagsOf_events (element : Element) : tagsOf element.events = element.names := by
  match element with
  | closed name attributes =>
    rw [events, Name.start, tagsOf_start, Name.elementName_bytes]
    rfl
  | holding name attributes text =>
    rw [events, Name.start, tagsOf_start, Name.elementName_bytes, tagsOf_append, tagsOf_textEvents]
    rfl
  | around name attributes children =>
    rw [events, Name.start, tagsOf_start, Name.elementName_bytes, tagsOf_append,
      tagsOf_eventsAll children]
    exact congrArg _ (List.append_nil _)

theorem tagsOf_eventsAll (elements : List Element) :
    tagsOf (eventsAll elements) = namesAll elements := by
  match elements with
  | [] => rfl
  | element :: more =>
    rw [eventsAll, tagsOf_append, tagsOf_events element, tagsOf_eventsAll more, namesAll]

end

end Element

theorem after_declared : ({} : Charset).after declared = ⟨.utf8, true⟩ := by
  let attributes : List (Name × List Char) := [(.ofText "version" rfl, "1.0".toList),
    (.ofText "encoding" rfl, "UTF-8".toList), (.ofText "standalone" rfl, "yes".toList)]
  have split : declared = "xml".toList ++ writtenAttributes attributes := rfl
  have begins : Text.after? "xml".toList declared = some (writtenAttributes attributes) :=
    Text.after?_eq_some_iff.mpr split
  have apart : Apart attributes := by decide
  have blank : (writtenAttributes attributes).head?.all isSpace = true := rfl
  have read : attributesFrom false [] (writtenAttributes attributes) =
      (rawAttributes attributes, false) :=
    attributesFrom_written apart (by simp)
  have label : (rawAttributes attributes).find? (fun a => a.name == "encoding".toList) =
      some ⟨"encoding".toList, "UTF-8".toList⟩ := rfl
  have named : declaredEncoding? declared = some .utf8 := by
    rw [declaredEncoding?, begins]
    simp only [blank, if_true, read, label, Option.bind_some]
    rfl
  simp only [Charset.after, Bool.false_eq_true, if_false, named]

/-- A document in UTF-8 is read as its elements, after the end of the line that declares it. -/
theorem events_document (root : Element) :
    Xml.events (byteText (document root)) = (.text (some ['\n']) :: root.events, false) := by
  have all : (declaration.all fun c => c.toNat < 128) = true := by decide
  have ascii : ∀ c ∈ declaration, c.toNat < 128 := by simpa using all
  have encoded : byteText (document root) = document root.encoded := by
    rw [document, document, Text.byteText_append, Text.byteText_of_ascii ascii,
      root.written_encoded]
  have start : Charset.ofStart (document root.encoded) = ({}, document root.encoded) := rfl
  have told : eventsOf false 0 ⟨.utf8, true⟩ (root.encoded.tokens ++ []) =
      ahead root.events (eventsOf false 0 ⟨.utf8, true⟩ []) := root.eventsOf_tokens rfl 0 []
  rw [List.append_nil] at told
  have line : textEvents .utf8 ['\n'] = ([.text (some ['\n'])], false) := rfl
  rw [encoded, Xml.events, start]
  simp only [tokens_document, eventsOf, after_declared, line, told, Bool.false_eq_true, if_false]
  simp [ahead]

end ReportSheets.Xml
