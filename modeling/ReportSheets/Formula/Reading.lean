import ReportSheets.Error
import ReportSheets.Formula.Expr
import ReportSheets.Text.Blank

namespace ReportSheets

namespace Expr

def cutUnquoted (mark : Char) :
    Bool → List Char → Except FormulaFault (Option (List Char × List Char))
  | quoted, [] => if quoted then .error .unterminatedLiteral else .ok none
  | quoted, c :: rest =>
    if c = '"' then (cutUnquoted mark (!quoted) rest).map (·.map fun (b, a) => (c :: b, a))
    else if c = mark ∧ quoted = false then .ok (some ([], rest))
    else (cutUnquoted mark quoted rest).map (·.map fun (b, a) => (c :: b, a))

def extendFirst (c : Char) : List (List Char) → List (List Char)
  | [] => [[c]]
  | arg :: args => (c :: arg) :: args

/-- The arguments between the commas outside quotes and inner parentheses. -/
def cutArguments : Nat → Bool → List Char → Except FormulaFault (List (List Char))
  | depth, quoted, [] =>
    if quoted then .error .unterminatedLiteral
    else if depth ≠ 0 then .error .unbalanced
    else .ok [[]]
  | depth, quoted, c :: rest =>
    if c = '"' then (cutArguments depth (!quoted) rest).map (extendFirst c)
    else if quoted then (cutArguments depth quoted rest).map (extendFirst c)
    else if c = '(' then (cutArguments (depth + 1) quoted rest).map (extendFirst c)
    else if c = ')' then
      match depth with
      | 0 => .error .unbalanced
      | outer + 1 => (cutArguments outer quoted rest).map (extendFirst c)
    else if c = ',' ∧ depth = 0 then (cutArguments depth quoted rest).map ([] :: ·)
    else (cutArguments depth quoted rest).map (extendFirst c)

def arguments (inner : List Char) : Except FormulaFault (List (List Char)) :=
  if Text.trim inner = [] then .ok [] else cutArguments 0 false inner

def beforeLast? (mark : Char) (text : List Char) : Option (List Char) :=
  if text.getLast? = some mark then some text.dropLast else none

/-- A formula taken apart once: none for a literal, else the name and the arguments' texts. -/
def takeApart (text : List Char) : Except FormulaFault (Option (List Char × List (List Char))) := do
  match ← cutUnquoted '(' false text with
  | none =>
    match ← cutUnquoted ')' false text with
    | none => return none
    | some _ => throw .closingWithoutOpening
  | some (name, rest) =>
    let name := Text.trim name
    if name = [] then throw .missingName
    match beforeLast? ')' rest with
    | none => throw .callNotClosed
    | some inner =>
      let args ← arguments inner
      return some (name, args.map Text.trim)

theorem length_trim_le (text : List Char) : (Text.trim text).length ≤ text.length := by
  have drop : ∀ l : List Char, (l.dropWhile Text.isBlank).length ≤ l.length :=
    fun l => (List.dropWhile_suffix Text.isBlank).length_le
  simp only [Text.trim, Text.trimEnd, Text.trimStart, List.length_reverse]
  refine Nat.le_trans (drop _) ?_
  simpa using drop text

theorem length_of_cutUnquoted {mark : Char} {quoted : Bool} {text before after : List Char}
    (h : cutUnquoted mark quoted text = .ok (some (before, after))) :
    text.length = before.length + 1 + after.length := by
  induction text generalizing quoted before with
  | nil =>
    simp only [cutUnquoted] at h
    split at h <;> simp at h
  | cons c rest ih =>
    simp only [cutUnquoted] at h
    split at h
    · cases hr : cutUnquoted mark (!quoted) rest with
      | error e => simp [hr, Except.map] at h
      | ok r =>
        cases r with
        | none => simp [hr, Except.map] at h
        | some p =>
          simp only [hr, Except.map, Option.map_some, Except.ok.injEq, Option.some.injEq,
            Prod.mk.injEq] at h
          obtain ⟨rfl, rfl⟩ := h
          have := ih hr
          simp only [List.length_cons]
          omega
    · split at h
      · simp only [Except.ok.injEq, Option.some.injEq, Prod.mk.injEq] at h
        obtain ⟨rfl, rfl⟩ := h
        simp
        omega
      · cases hr : cutUnquoted mark quoted rest with
        | error e => simp [hr, Except.map] at h
        | ok r =>
          cases r with
          | none => simp [hr, Except.map] at h
          | some p =>
            simp only [hr, Except.map, Option.map_some, Except.ok.injEq, Option.some.injEq,
              Prod.mk.injEq] at h
            obtain ⟨rfl, rfl⟩ := h
            have := ih hr
            simp only [List.length_cons]
            omega

theorem length_extendFirst_le {c : Char} {args : List (List Char)} {n : Nat}
    (h : ∀ arg ∈ args, arg.length ≤ n) : ∀ arg ∈ extendFirst c args, arg.length ≤ n + 1 := by
  cases args with
  | nil => simp [extendFirst]
  | cons first rest =>
    intro arg member
    rcases List.mem_cons.1 member with rfl | member
    · simpa using h first (by simp)
    · exact Nat.le_succ_of_le (h arg (by simp [member]))

theorem length_of_mem_cutArguments {depth : Nat} {quoted : Bool} {inner : List Char}
    {args : List (List Char)} (h : cutArguments depth quoted inner = .ok args) :
    ∀ arg ∈ args, arg.length ≤ inner.length := by
  induction inner generalizing depth quoted args with
  | nil =>
    simp only [cutArguments] at h
    split at h
    · simp at h
    · split at h
      · simp at h
      · simp only [Except.ok.injEq] at h
        subst h
        simp
  | cons c rest ih =>
    have extend : ∀ {d : Nat} {q : Bool},
        (cutArguments d q rest).map (extendFirst c) = .ok args →
          ∀ arg ∈ args, arg.length ≤ rest.length + 1 := by
      intro d q hm
      cases hr : cutArguments d q rest with
      | error e => simp [hr, Except.map] at hm
      | ok more =>
        simp only [hr, Except.map, Except.ok.injEq] at hm
        subst hm
        exact length_extendFirst_le (ih hr)
    simp only [cutArguments] at h
    split at h
    · exact extend h
    · split at h
      · exact extend h
      · split at h
        · exact extend h
        · split at h
          · split at h
            · simp at h
            · exact extend h
          · split at h
            · cases hr : cutArguments depth quoted rest with
              | error e => simp [hr, Except.map] at h
              | ok more =>
                simp only [hr, Except.map, Except.ok.injEq] at h
                subst h
                intro arg member
                rcases List.mem_cons.1 member with rfl | member
                · simp
                · exact Nat.le_succ_of_le (ih hr arg member)
            · exact extend h

theorem length_of_mem_arguments {inner : List Char} {args : List (List Char)}
    (h : arguments inner = .ok args) : ∀ arg ∈ args, arg.length ≤ inner.length := by
  simp only [arguments] at h
  split at h
  · simp only [Except.ok.injEq] at h
    subst h
    simp
  · exact length_of_mem_cutArguments h

theorem takeApart_eq_some {text name : List Char} {args : List (List Char)}
    (h : takeApart text = .ok (some (name, args))) :
    ∃ front rest inner cut, cutUnquoted '(' false text = .ok (some (front, rest)) ∧
      name = Text.trim front ∧ name ≠ [] ∧ beforeLast? ')' rest = some inner ∧
      arguments inner = .ok cut ∧ args = cut.map Text.trim := by
  simp only [takeApart] at h
  cases hc : cutUnquoted '(' false text with
  | error e => simp [hc, bind, Except.bind] at h
  | ok found =>
    cases found with
    | none =>
      simp only [hc, bind, Except.bind] at h
      cases hd : cutUnquoted ')' false text with
      | error e => simp [hd] at h
      | ok closing => cases closing <;> simp [hd, pure, Except.pure, throw, throwThe,
          MonadExceptOf.throw] at h
    | some parts =>
      obtain ⟨front, rest⟩ := parts
      simp only [hc, bind, Except.bind] at h
      split at h
      · simp [throw, throwThe, MonadExceptOf.throw] at h
      · rename_i named
        cases hb : beforeLast? ')' rest with
        | none => simp [hb, throw, throwThe, MonadExceptOf.throw] at h
        | some inner =>
          simp only [hb] at h
          cases ha : arguments inner with
          | error e => simp [ha] at h
          | ok cut =>
            simp only [ha, pure, Except.pure, Except.ok.injEq, Option.some.injEq,
              Prod.mk.injEq] at h
            obtain ⟨rfl, rfl⟩ := h
            exact ⟨front, rest, inner, cut, rfl, rfl, named, hb, ha, rfl⟩

theorem length_of_mem_takeApart {text name : List Char} {args : List (List Char)}
    (h : takeApart text = .ok (some (name, args))) : ∀ arg ∈ args, arg.length < text.length := by
  obtain ⟨front, rest, inner, cut, hc, -, -, hb, ha, rfl⟩ := takeApart_eq_some h
  intro arg member
  obtain ⟨whole, cutMember, rfl⟩ := List.mem_map.1 member
  have bound := length_of_mem_arguments ha whole cutMember
  have short := length_trim_le whole
  have sum := length_of_cutUnquoted hc
  have inside : inner.length ≤ rest.length := by
    simp only [beforeLast?] at hb
    split at hb
    · simp only [Option.some.injEq] at hb
      subst hb
      simp
    · simp at hb
  omega

def read (text : List Char) : Except Error Expr :=
  match _taken : takeApart text with
  | .error fault => .error (.formula fault (String.ofList text))
  | .ok none => .ok (.literal (String.ofList text))
  | .ok (some (name, args)) =>
    (args.attach.mapM fun arg => read arg.1).map (.call (String.ofList name))
termination_by text.length
decreasing_by exact length_of_mem_takeApart _taken arg.1 arg.2

def parse (formula : String) : Except Error Expr := read (Text.trim formula.toList)

end Expr

end ReportSheets
