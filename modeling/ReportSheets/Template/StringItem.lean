import ReportSheets.Xml.Event
import ReportSheets.Xml.Numbered

namespace ReportSheets.Template

open Xml

def runName : List Char := "r".toList

def textName : List Char := "t".toList

def phoneticName : List Char := "rPh".toList

/-- The texts of the runs up to the end of the item, behind `joined`; `inside` is the name of the
text element that is open, with its text so far. -/
def joinRuns (closing : List Char) (joined : List Char) (phonetic : Bool)
    (inside : Option (List Char × List Char)) : List Event → Option (List Char × List Event)
  | [] => none
  | .text content :: rest =>
    match inside with
    | some (name, text) => do
      joinRuns closing joined phonetic (some (name, text ++ (← content))) rest
    | none => joinRuns closing joined phonetic none rest
  | .start content _ :: rest =>
    if inside.isSome then joinRuns closing joined phonetic inside rest
    else if elementName content = phoneticName then joinRuns closing joined true none rest
    else if elementName content = textName ∧ ¬phonetic then
      joinRuns closing joined phonetic (some (tagName content, [])) rest
    else joinRuns closing joined phonetic none rest
  | .finish ended :: rest =>
    match inside with
    | some (name, text) =>
      if name = ended then joinRuns closing (joined ++ readNumbered text) phonetic none rest
      else joinRuns closing joined phonetic inside rest
    | none =>
      if ended = closing then some (joined, rest)
      else joinRuns closing joined (phonetic && localName ended != phoneticName) none rest

def stringItem (closing : List Char) (phonetic : Bool) :
    List Event → Option (Option (List Char) × List Event)
  | [] => none
  | .text _ :: rest => stringItem closing phonetic rest
  | .start content _ :: rest =>
    if elementName content = runName then
      (joinRuns closing [] phonetic none rest).map fun (joined, rest) => (some joined, rest)
    else if elementName content = phoneticName then stringItem closing true rest
    else if elementName content = textName ∧ ¬phonetic then do
      let (text, rest) ← textUntil (tagName content) rest
      return (some (readNumbered text), ← pastEnd closing 0 rest)
    else stringItem closing phonetic rest
  | .finish name :: rest =>
    if name = closing then some (none, rest)
    else stringItem closing (phonetic && localName name != phoneticName) rest

theorem length_of_joinRuns {closing joined text : List Char} {phonetic : Bool}
    {inside : Option (List Char × List Char)} {events rest : List Event}
    (h : joinRuns closing joined phonetic inside events = some (text, rest)) :
    rest.length < events.length := by
  induction events generalizing joined phonetic inside with
  | nil => simp [joinRuns] at h
  | cons event more ih =>
    cases event with
    | text content =>
      simp only [joinRuns] at h
      split at h
      · obtain ⟨_, _, h⟩ := Option.bind_eq_some_iff.1 h
        exact Nat.lt_succ_of_lt (ih h)
      · exact Nat.lt_succ_of_lt (ih h)
    | start content _ =>
      simp only [joinRuns] at h
      repeat' split at h
      all_goals exact Nat.lt_succ_of_lt (ih h)
    | finish ended =>
      simp only [joinRuns] at h
      split at h
      · split at h <;> exact Nat.lt_succ_of_lt (ih h)
      · split at h
        · simp only [Option.some.injEq, Prod.mk.injEq] at h
          simp [← h.2]
        · exact Nat.lt_succ_of_lt (ih h)

theorem length_of_stringItem {closing : List Char} {phonetic : Bool} {item : Option (List Char)}
    {events rest : List Event} (h : stringItem closing phonetic events = some (item, rest)) :
    rest.length < events.length := by
  induction events generalizing phonetic with
  | nil => simp [stringItem] at h
  | cons event more ih =>
    cases event with
    | text content => exact Nat.lt_succ_of_lt (ih h)
    | finish name =>
      simp only [stringItem] at h
      split at h
      · simp only [Option.some.injEq, Prod.mk.injEq] at h
        simp [← h.2]
      · exact Nat.lt_succ_of_lt (ih h)
    | start content _ =>
      simp only [stringItem] at h
      split at h
      · obtain ⟨⟨_, _⟩, step, he⟩ := Option.map_eq_some_iff.1 h
        simp only [Prod.mk.injEq] at he
        obtain ⟨-, rfl⟩ := he
        exact Nat.lt_succ_of_lt (length_of_joinRuns step)
      · split at h
        · exact Nat.lt_succ_of_lt (ih h)
        · split at h
          · obtain ⟨⟨_, _⟩, first, h⟩ := Option.bind_eq_some_iff.1 h
            obtain ⟨_, second, h⟩ := Option.bind_eq_some_iff.1 h
            simp only [Option.pure_def, Option.some.injEq, Prod.mk.injEq] at h
            obtain ⟨-, rfl⟩ := h
            exact Nat.lt_succ_of_lt
              (Nat.lt_trans (length_of_pastEnd second) (length_of_textUntil first))
          · exact Nat.lt_succ_of_lt (ih h)

/-- The texts of a table of string items, which has to end; items without text are left out. -/
def stringTable (events : List Event) : Option (List (List Char)) :=
  match events with
  | [] => none
  | .start content _ :: rest =>
    if elementName content = "si".toList then
      match _item : stringItem (tagName content) false rest with
      | none => none
      | some (item, rest) => (stringTable rest).map (item.toList ++ ·)
    else stringTable rest
  | .finish name :: rest => if localName name = "sst".toList then some [] else stringTable rest
  | .text _ :: rest => stringTable rest
termination_by events.length
decreasing_by
  · exact Nat.lt_succ_of_lt (length_of_stringItem _item)
  · exact Nat.lt_succ_self _
  · exact Nat.lt_succ_self _
  · exact Nat.lt_succ_self _

end ReportSheets.Template
