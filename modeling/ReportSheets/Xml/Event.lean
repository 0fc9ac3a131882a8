import ReportSheets.Text.Encoding
import ReportSheets.Xml.Nesting

namespace ReportSheets.Xml

open Text (Encoding)

inductive Event
  | start (content : List Char) (encoding : Encoding)
  | finish (name : List Char)
  /-- A text without references, or what a reference stands for; none where it cannot be read. -/
  | text (content : Option (List Char))

structure Charset where
  encoding : Encoding := .utf8
  declared : Bool := false

def declaredEncoding? (instruction : List Char) : Option Encoding :=
  match Text.after? "xml".toList instruction with
  | none => none
  | some rest =>
    if rest.head?.all isSpace then
      ((attributesFrom false [] rest).1.find? fun a => a.name == "encoding".toList).bind fun a =>
        Encoding.ofLabel? a.value
    else none

def Charset.after (charset : Charset) (instruction : List Char) : Charset :=
  if charset.declared then charset
  else
    match declaredEncoding? instruction with
    | some encoding => ⟨encoding, true⟩
    | none => charset

def Charset.ofStart (document : List Char) : Charset × List Char :=
  match document with
  | '\xef' :: '\xbb' :: '\xbf' :: rest => ({}, rest)
  | '\xfe' :: '\xff' :: rest => ({ encoding := .utf16 true }, rest)
  | '\xff' :: '\xfe' :: rest => ({ encoding := .utf16 false }, rest)
  | '\x00' :: '<' :: '\x00' :: '?' :: _ => ({ encoding := .utf16 true }, document)
  | '<' :: '\x00' :: '?' :: '\x00' :: _ => ({ encoding := .utf16 false }, document)
  | _ => ({}, document)

def unifyBreaks : List Char → List Char
  | '\r' :: '\n' :: rest => '\n' :: unifyBreaks rest
  | '\r' :: rest => '\n' :: unifyBreaks rest
  | c :: rest => c :: unifyBreaks rest
  | [] => []

def plainEvents (encoding : Encoding) (text : List Char) : List Event :=
  if text = [] then [] else [.text ((encoding.decode? text).map unifyBreaks)]

/-- The events of what follows each ampersand of a text, and whether one of the references that
begin there has no end. -/
def referenceEvents (encoding : Encoding) : List (List Char) → List Event × Bool
  | [] => ([], false)
  | piece :: more =>
    match Text.cutAt ';' piece with
    | none => ([], true)
    | some (name, text) =>
      let resolved := ((encoding.decode? name).bind reference?).map fun c => [c]
      let (more, broken) := referenceEvents encoding more
      (.text resolved :: plainEvents encoding text ++ more, broken)

def textEvents (encoding : Encoding) (text : List Char) : List Event × Bool :=
  match Text.pieces (· == '&') text with
  | [] => ([], false)
  | first :: others =>
    let (more, broken) := referenceEvents encoding others
    (plainEvents encoding first ++ more, broken)

/-- The events of tokens inside so many open elements, and whether something broken follows them.
An element that is closed at once begins and finishes. -/
def eventsOf (broken : Bool) (depth : Nat) (charset : Charset) : List Token → List Event × Bool
  | [] => ([], broken)
  | .opening content closed :: rest =>
    let (more, broken) := eventsOf broken (if closed then depth else depth + 1) charset rest
    (.start content charset.encoding ::
      (if closed then .finish (tagName content) :: more else more), broken)
  | .closing content :: rest =>
    match depth with
    | 0 => ([], true)
    | outer + 1 =>
      let (more, broken) := eventsOf broken outer charset rest
      (.finish (closingName content) :: more, broken)
  | .text content :: rest =>
    let (found, unended) := textEvents charset.encoding content
    if unended then (found, true)
    else
      let (more, broken) := eventsOf broken depth charset rest
      (found ++ more, broken)
  | .instruction content :: rest => eventsOf broken depth (charset.after content) rest
  | _ :: rest => eventsOf broken depth charset rest

def events (document : List Char) : List Event × Bool :=
  let (charset, document) := Charset.ofStart document
  let (tokens, broken) := tokensOf document
  eventsOf broken 0 charset tokens

def textUntil (name : List Char) : List Event → Option (List Char × List Event)
  | [] => none
  | .text content :: rest => do
    let content ← content
    let (more, rest) ← textUntil name rest
    return (content ++ more, rest)
  | .finish ended :: rest => if ended = name then some ([], rest) else textUntil name rest
  | .start .. :: rest => textUntil name rest

/-- What follows the end of an element; `depth` elements of the same name are open inside it. -/
def pastEnd (name : List Char) (depth : Nat) : List Event → Option (List Event)
  | [] => none
  | .text _ :: rest => pastEnd name depth rest
  | .start content _ :: rest =>
    pastEnd name (if tagName content = name then depth + 1 else depth) rest
  | .finish ended :: rest =>
    if ended = name then
      match depth with
      | 0 => some rest
      | outer + 1 => pastEnd name outer rest
    else pastEnd name depth rest

theorem length_of_textUntil {name text : List Char} {events rest : List Event}
    (h : textUntil name events = some (text, rest)) : rest.length < events.length := by
  induction events generalizing text with
  | nil => simp [textUntil] at h
  | cons event more ih =>
    cases event with
    | start _ _ => exact Nat.lt_succ_of_lt (ih h)
    | finish ended =>
      simp only [textUntil] at h
      split at h
      · simp only [Option.some.injEq, Prod.mk.injEq] at h
        simp [← h.2]
      · exact Nat.lt_succ_of_lt (ih h)
    | text content =>
      simp only [textUntil, Option.bind_eq_bind, Option.bind_eq_some_iff] at h
      obtain ⟨_, _, ⟨_, _⟩, step, he⟩ := h
      simp only [Option.pure_def, Option.some.injEq, Prod.mk.injEq] at he
      obtain ⟨-, rfl⟩ := he
      exact Nat.lt_succ_of_lt (ih step)

theorem length_of_pastEnd {name : List Char} {depth : Nat} {events rest : List Event}
    (h : pastEnd name depth events = some rest) : rest.length < events.length := by
  induction events generalizing depth with
  | nil => simp [pastEnd] at h
  | cons event more ih =>
    cases event with
    | text _ => exact Nat.lt_succ_of_lt (ih h)
    | start _ _ => exact Nat.lt_succ_of_lt (ih h)
    | finish ended =>
      simp only [pastEnd] at h
      split at h
      · split at h
        · simp only [Option.some.injEq] at h
          simp [← h]
        · exact Nat.lt_succ_of_lt (ih h)
      · exact Nat.lt_succ_of_lt (ih h)

end ReportSheets.Xml
