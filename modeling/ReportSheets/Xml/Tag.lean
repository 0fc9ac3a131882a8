import ReportSheets.Xml.Entity
import ReportSheets.Xml.Token

namespace ReportSheets.Xml

def localName (name : List Char) : List Char :=
  match Text.cutAt ':' name with
  | some (_, rest) => rest
  | none => name

structure Attribute where
  name : List Char
  /-- As written, references not resolved. -/
  value : List Char
deriving DecidableEq

def attribute? (text : List Char) : Option (Attribute × List Char) :=
  match text with
  | [] => none
  | c :: rest =>
    let name := c :: rest.takeWhile fun d => d != '=' && !isSpace d
    let rest := (rest.dropWhile fun d => d != '=' && !isSpace d).dropWhile isSpace
    match rest with
    | '=' :: rest =>
      match rest.dropWhile isSpace with
      | quote :: rest =>
        if quote = '"' ∨ quote = '\'' then
          (Text.cutAt quote rest).map fun (value, rest) => (⟨name, value⟩, rest)
        else none
      | [] => none
    | _ => none

theorem length_dropWhile_le (p : Char → Bool) (text : List Char) :
    (text.dropWhile p).length ≤ text.length := (List.dropWhile_suffix p).length_le

theorem length_of_attribute? {text rest : List Char} {a : Attribute}
    (h : attribute? text = some (a, rest)) : rest.length < text.length := by
  cases text with
  | nil => simp [attribute?] at h
  | cons c tail =>
    simp only [attribute?] at h
    split at h
    · rename_i more equals
      split at h
      · rename_i quote value opens
        split at h
        · obtain ⟨⟨b, r⟩, hc, he⟩ := Option.map_eq_some_iff.1 h
          simp only [Prod.mk.injEq] at he
          have cut := congrArg List.length (Text.eq_of_cutAt hc)
          have step₁ := congrArg List.length opens
          have step₂ := congrArg List.length equals
          have bound₁ := length_dropWhile_le isSpace more
          have bound₂ := length_dropWhile_le isSpace
            (tail.dropWhile fun d => d != '=' && !isSpace d)
          have bound₃ := length_dropWhile_le (fun d => d != '=' && !isSpace d) tail
          simp only [List.length_append, List.length_cons] at *
          rw [← he.2]
          omega
        · simp at h
      · simp at h
    · simp at h

/-- The attributes in the content of a tag after its name, and whether something that is no
attribute follows them, or one whose name was there before if names have to be `unique`. -/
def attributesFrom (unique : Bool) (seen : List (List Char)) (text : List Char) :
    List Attribute × Bool :=
  match _start : text.dropWhile isSpace with
  | [] => ([], false)
  | c :: rest =>
    match _next : attribute? (c :: rest) with
    | none => ([], true)
    | some (a, rest) =>
      if unique ∧ a.name ∈ seen then ([], true)
      else
        let (more, broken) := attributesFrom unique (a.name :: seen) rest
        (a :: more, broken)
termination_by text.length
decreasing_by
  have bound := length_dropWhile_le isSpace text
  rw [_start] at bound
  exact Nat.lt_of_lt_of_le (length_of_attribute? _next) bound

def tagName (content : List Char) : List Char := content.takeWhile fun c => !isSpace c

def afterName (content : List Char) : List Char := content.dropWhile fun c => !isSpace c

def tagAttributes (content : List Char) : List Attribute × Bool :=
  attributesFrom true [] (afterName content)

structure TagStep where
  found : Option Attribute
  seen : List (List Char)
  rest : List Char

/-- The value after an equals sign, none when it has no quotes, and what follows it; nothing follows
a value without an end. -/
def quotedValue (text : List Char) : Option (List Char) × List Char :=
  match text.dropWhile isSpace with
  | [] => (none, [])
  | quote :: rest =>
    if quote = '"' ∨ quote = '\'' then
      match Text.cutAt quote rest with
      | some (value, rest) => (some value, rest)
      | none => (none, [])
    else (none, rest.dropWhile fun c => !isSpace c)

def tagStep (seen : List (List Char)) (name text : List Char) : TagStep :=
  match text.dropWhile isSpace with
  | '=' :: rest =>
    let value := quotedValue rest
    if name ∈ seen then ⟨none, seen, value.2⟩
    else ⟨value.1.map (⟨name, ·⟩), name :: seen, value.2⟩
  | rest => ⟨none, seen, rest⟩

theorem length_quotedValue_le (text : List Char) :
    (quotedValue text).2.length ≤ text.length := by
  have bound := length_dropWhile_le isSpace text
  unfold quotedValue
  split
  · exact Nat.zero_le _
  · rename_i quote rest start
    rw [start, List.length_cons] at bound
    split
    · split
      · rename_i value after cut
        have parts := congrArg List.length (Text.eq_of_cutAt cut)
        simp only [List.length_append, List.length_cons] at parts
        simp only
        omega
      · exact Nat.zero_le _
    · have more := length_dropWhile_le (fun c => !isSpace c) rest
      simp only
      omega

theorem length_tagStep_le (seen : List (List Char)) (name text : List Char) :
    (tagStep seen name text).rest.length ≤ text.length := by
  have bound := length_dropWhile_le isSpace text
  unfold tagStep
  split
  · rename_i rest start
    have value := length_quotedValue_le rest
    rw [start, List.length_cons] at bound
    dsimp only
    split <;> exact Nat.le_trans value (Nat.le_of_lt bound)
  · exact bound

def soundAttributesFrom (seen : List (List Char)) (text : List Char) : List Attribute :=
  match _start : text.dropWhile isSpace with
  | [] => []
  | c :: rest =>
    let step := tagStep seen (c :: rest.takeWhile fun d => d != '=' && !isSpace d)
      (rest.dropWhile fun d => d != '=' && !isSpace d)
    step.found.toList ++ soundAttributesFrom step.seen step.rest
termination_by text.length
decreasing_by
  have bound := length_dropWhile_le isSpace text
  rw [_start, List.length_cons] at bound
  exact Nat.lt_of_le_of_lt (length_tagStep_le ..)
    (Nat.lt_of_le_of_lt (length_dropWhile_le ..) (Nat.lt_of_succ_le bound))

def soundAttributes (content : List Char) : List Attribute :=
  soundAttributesFrom [] (afterName content)

def closingName (content : List Char) : List Char :=
  let kept := (content.reverse.dropWhile isSpace).reverse
  if kept = [] then content else kept

end ReportSheets.Xml
