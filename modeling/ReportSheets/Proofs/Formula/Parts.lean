import ReportSheets.Formula.Reading
import ReportSheets.Proofs.Outcome
import ReportSheets.Proofs.Text.Blank
import ReportSheets.Proofs.Text.Level

namespace ReportSheets

namespace Expr

open Text

variable {mark : Char} {quoted : Bool} {level next : Level}
  {text before after inner name : List Char} {args pieces : List (List Char)} {e : Expr}

theorem cutUnquoted_quote (mark : Char) (quoted : Bool) (rest : List Char) :
    cutUnquoted mark quoted ('"' :: rest) =
      (cutUnquoted mark (!quoted) rest).map (·.map fun (b, a) => ('"' :: b, a)) := by
  simp [cutUnquoted]

theorem cutUnquoted_mark (other : mark ≠ '"') (rest : List Char) :
    cutUnquoted mark false (mark :: rest) = .ok (some ([], rest)) := by
  simp [cutUnquoted, other]

theorem cutUnquoted_pass {c : Char} (other : c ≠ '"') (pass : c = mark → quoted = true)
    (rest : List Char) :
    cutUnquoted mark quoted (c :: rest) =
      (cutUnquoted mark quoted rest).map (·.map fun (b, a) => (c :: b, a)) := by
  have pass : ¬ (c = mark ∧ quoted = false) := by
    rintro ⟨same, bare⟩
    rw [pass same] at bare
    cases bare
  simp [cutUnquoted, other, pass]

theorem cutUnquoted_missing (missing : mark ∉ outside quoted text) :
    cutUnquoted mark quoted text =
      if quotedAfter quoted text then .error .unterminatedLiteral else .ok none := by
  induction text generalizing quoted with
  | nil => rfl
  | cons c rest ih =>
    by_cases quote : c = '"'
    · subst quote
      rw [outside_cons_quote] at missing
      rw [cutUnquoted_quote, ih missing, quotedAfter, if_pos rfl]
      split <;> rfl
    · rw [quotedAfter, if_neg quote]
      cases quoted with
      | true =>
        rw [outside_cons_quoted quote] at missing
        rw [cutUnquoted_pass quote fun _ => rfl, ih missing]
        split <;> rfl
      | false =>
        rw [outside_cons_bare quote, List.mem_cons, not_or] at missing
        rw [cutUnquoted_pass quote fun same => absurd same.symm missing.1, ih missing.2]
        split <;> rfl

theorem cutUnquoted_found (other : mark ≠ '"') (first : mark ∉ outside quoted before)
    (bare : quotedAfter quoted before = false) (after : List Char) :
    cutUnquoted mark quoted (before ++ mark :: after) = .ok (some (before, after)) := by
  induction before generalizing quoted with
  | nil =>
    cases bare
    exact cutUnquoted_mark other after
  | cons c rest ih =>
    rw [List.cons_append]
    by_cases quote : c = '"'
    · subst quote
      rw [outside_cons_quote] at first
      rw [cutUnquoted_quote, ih first bare]
      rfl
    · rw [quotedAfter, if_neg quote] at bare
      cases quoted with
      | true =>
        rw [outside_cons_quoted quote] at first
        rw [cutUnquoted_pass quote fun _ => rfl, ih first bare]
        rfl
      | false =>
        rw [outside_cons_bare quote, List.mem_cons, not_or] at first
        rw [cutUnquoted_pass quote fun same => absurd same.symm first.1, ih first.2 bare]
        rfl

theorem exists_first_outside (member : mark ∈ outside quoted text) :
    ∃ before after, text = before ++ mark :: after ∧ mark ∉ outside quoted before ∧
      quotedAfter quoted before = false := by
  induction text generalizing quoted with
  | nil => cases member
  | cons c rest ih =>
    by_cases quote : c = '"'
    · subst quote
      rw [outside_cons_quote] at member
      obtain ⟨before, after, rfl, first, bare⟩ := ih member
      exact ⟨'"' :: before, after, rfl, by rwa [outside_cons_quote], bare⟩
    cases quoted with
    | true =>
      rw [outside_cons_quoted quote] at member
      obtain ⟨before, after, rfl, first, bare⟩ := ih member
      refine ⟨c :: before, after, rfl, by rwa [outside_cons_quoted quote], ?_⟩
      rwa [quotedAfter, if_neg quote]
    | false =>
      by_cases same : c = mark
      · subst same
        exact ⟨[], rest, rfl, List.not_mem_nil, rfl⟩
      · rw [outside_cons_bare quote] at member
        have later : mark ∈ outside false rest :=
          (List.mem_cons.mp member).resolve_left (Ne.symm same)
        obtain ⟨before, after, rfl, first, bare⟩ := ih later
        refine ⟨c :: before, after, rfl, ?_, by rwa [quotedAfter, if_neg quote]⟩
        rw [outside_cons_bare quote, List.mem_cons, not_or]
        exact ⟨Ne.symm same, first⟩

theorem cutUnquoted_eq_none_iff (other : mark ≠ '"') :
    cutUnquoted mark false text = .ok none ↔ mark ∉ outside false text ∧ Paired text := by
  rw [← quotedAfter_eq_self_iff false]
  constructor
  · intro cut
    by_cases member : mark ∈ outside false text
    · obtain ⟨before, after, rfl, first, bare⟩ := exists_first_outside member
      rw [cutUnquoted_found other first bare] at cut
      cases cut
    · rw [cutUnquoted_missing member] at cut
      cases open? : quotedAfter false text with
      | true =>
        rw [open?] at cut
        cases cut
      | false => exact ⟨member, rfl⟩
  · rintro ⟨missing, closed⟩
    rw [cutUnquoted_missing missing, closed]
    rfl

theorem cutUnquoted_eq_some_iff (other : mark ≠ '"') :
    cutUnquoted mark false text = .ok (some (before, after)) ↔
      text = before ++ mark :: after ∧ mark ∉ outside false before ∧ Paired before := by
  rw [← quotedAfter_eq_self_iff false]
  constructor
  · intro cut
    by_cases member : mark ∈ outside false text
    · obtain ⟨front, rest, rfl, first, bare⟩ := exists_first_outside member
      rw [cutUnquoted_found other first bare] at cut
      cases cut
      exact ⟨rfl, first, bare⟩
    · rw [cutUnquoted_missing member] at cut
      split at cut <;> cases cut
  · rintro ⟨rfl, first, bare⟩
    exact cutUnquoted_found other first bare after

def joined : List (List Char) → List Char
  | [] => []
  | first :: more => first ++ more.flatMap (',' :: ·)

theorem joined_cons_cons (first second : List Char) (more : List (List Char)) :
    joined (first :: second :: more) = first ++ ',' :: joined (second :: more) := by
  simp [joined]

def IsArgument (text : List Char) : Prop := Level.reach? [','] Level.ground text = some Level.ground

/-- Cutting goes on from the level that the front of a text leads to. -/
def cutFrom (level : Level) (text : List Char) : Except FormulaFault (List (List Char)) :=
  cutArguments level.depth level.quoted text

theorem cutFrom_comma (rest : List Char) :
    cutFrom .ground (',' :: rest) = (cutFrom .ground rest).map ([] :: ·) := by
  simp [cutFrom, Level.ground, cutArguments]

theorem cutFrom_step {c : Char} (steps : Level.Steps level c next)
    (passes : ¬ (c ∈ [','] ∧ level = .ground)) (rest : List Char) :
    cutFrom level (c :: rest) = (cutFrom next rest).map (extendFirst c) := by
  cases steps with
  | quote depth quoted => simp [cutFrom, cutArguments]
  | quoted depth other => simp [cutFrom, cutArguments, other]
  | opening depth => simp [cutFrom, cutArguments]
  | closing depth => simp [cutFrom, cutArguments]
  | plain depth other notOpening notClosing =>
    have comma : ¬ (c = ',' ∧ depth = 0) := by
      rintro ⟨same, rfl⟩
      exact passes ⟨List.mem_singleton.mpr same, rfl⟩
    simp [cutFrom, cutArguments, other, notOpening, notClosing, comma]

/-- A character that leads nowhere closes a parenthesis on the ground. -/
theorem cutFrom_stuck {c : Char} (stuck : level.after? c = none) (rest : List Char) :
    cutFrom level (c :: rest) = .error .unbalanced := by
  obtain ⟨depth, quoted⟩ := level
  simp only [Level.after?] at stuck
  split at stuck
  · cases stuck
  · rename_i other
    split at stuck
    · cases stuck
    · rename_i bare
      split at stuck
      · cases stuck
      · rename_i notOpening
        split at stuck
        · rename_i closing
          cases depth with
          | zero => simp [cutFrom, cutArguments, closing, bare]
          | succ outer => cases stuck
        · cases stuck

theorem cutFrom_append (reached : Level.reach? [','] level before = some next)
    (after : List Char) :
    cutFrom level (before ++ after) =
      (cutFrom next after).map fun pieces => before.foldr extendFirst pieces := by
  induction before generalizing level with
  | nil =>
    cases reached
    show cutFrom next after = _
    cases cutFrom next after <;> rfl
  | cons c rest ih =>
    obtain ⟨passes, between, first, later⟩ := Level.reach?_cons_iff.mp reached
    rw [List.cons_append, cutFrom_step first passes, ih later]
    cases cutFrom next after <;> rfl

theorem foldr_extendFirst (before first : List Char) (more : List (List Char)) :
    before.foldr extendFirst (first :: more) = (before ++ first) :: more := by
  induction before with
  | nil => rfl
  | cons c before ih =>
    rw [List.foldr_cons, ih]
    rfl

theorem cutFrom_joined (first : List Char) (more : List (List Char))
    (each : ∀ piece ∈ first :: more, IsArgument piece) :
    cutFrom .ground (joined (first :: more)) = .ok (first :: more) := by
  induction more generalizing first with
  | nil =>
    rw [joined, cutFrom_append (each first List.mem_cons_self)]
    show Except.ok (first.foldr extendFirst [[]]) = _
    rw [foldr_extendFirst, List.append_nil]
  | cons second more ih =>
    have later := ih second fun piece member => each piece (List.mem_cons_of_mem first member)
    rw [joined_cons_cons, cutFrom_append (each first List.mem_cons_self), cutFrom_comma, later]
    show Except.ok (first.foldr extendFirst ([] :: second :: more)) = _
    rw [foldr_extendFirst, List.append_nil]

theorem of_cutFrom (cut : cutFrom level text = .ok pieces) :
    ∃ first more, pieces = first :: more ∧ text = joined pieces ∧
      Level.reach? [','] level first = some .ground ∧ ∀ piece ∈ more, IsArgument piece := by
  -- each character may change the level, and a comma on the ground begins a new first piece
  induction text generalizing level pieces with
  | nil =>
    simp only [cutFrom, cutArguments] at cut
    split at cut
    · cases cut
    · rename_i bare
      split at cut
      · cases cut
      · rename_i low
        cases cut
        refine ⟨[], [], rfl, rfl, ?_, fun piece member => by cases member⟩
        have ground : level = .ground := by
          obtain ⟨depth, quoted⟩ := level
          simp_all [Level.ground]
        rw [ground]
        rfl
  | cons c rest ih =>
    by_cases divides : c ∈ [','] ∧ level = .ground
    · obtain ⟨comma, rfl⟩ := divides
      obtain rfl := List.mem_singleton.mp comma
      rw [cutFrom_comma] at cut
      cases later : cutFrom .ground rest with
      | error fault =>
        rw [later] at cut
        cases cut
      | ok found =>
        rw [later] at cut
        cases cut
        obtain ⟨first, more, rfl, rfl, reached, each⟩ := ih later
        refine ⟨[], first :: more, rfl, by simp [joined], rfl, ?_⟩
        intro piece member
        rcases List.mem_cons.mp member with rfl | member
        · exact reached
        · exact each piece member
    · cases stepped : level.after? c with
      | none =>
        rw [cutFrom_stuck stepped] at cut
        cases cut
      | some next =>
        have steps := Level.steps_of_after? stepped
        rw [cutFrom_step steps divides] at cut
        cases later : cutFrom next rest with
        | error fault =>
          rw [later] at cut
          cases cut
        | ok found =>
          rw [later] at cut
          cases cut
          obtain ⟨first, more, rfl, rfl, reached, each⟩ := ih later
          exact ⟨c :: first, more, rfl, rfl,
            Level.reach?_cons_iff.mpr ⟨divides, next, steps, reached⟩, each⟩

theorem cutArguments_eq_ok_iff :
    cutArguments 0 false inner = .ok pieces ↔
      pieces ≠ [] ∧ inner = joined pieces ∧ ∀ piece ∈ pieces, IsArgument piece := by
  constructor
  · intro cut
    have ground : cutFrom .ground inner = .ok pieces := cut
    obtain ⟨first, more, rfl, whole, reached, each⟩ := of_cutFrom ground
    refine ⟨List.cons_ne_nil first more, whole, ?_⟩
    intro piece member
    rcases List.mem_cons.mp member with rfl | member
    · exact reached
    · exact each piece member
  · rintro ⟨some, rfl, each⟩
    obtain ⟨first, more, rfl⟩ := List.exists_cons_of_ne_nil some
    exact cutFrom_joined first more each

/-- The pieces with commas between them; where there is no piece, blanks may stand. -/
def Divided (pieces : List (List Char)) (inner : List Char) : Prop :=
  (pieces = [] ∧ Blank inner) ∨ (pieces ≠ [] ∧ inner = joined pieces)

theorem not_blank_joined (some : pieces ≠ []) (single : ∀ piece, pieces = [piece] → ¬ Blank piece) :
    ¬ Blank (joined pieces) := by
  intro blank
  obtain ⟨first, more, rfl⟩ := List.exists_cons_of_ne_nil some
  cases more with
  | nil =>
    apply single first rfl
    simpa [joined] using blank
  | cons second more =>
    have comma : ',' ∈ joined (first :: second :: more) := by simp [joined_cons_cons]
    exact absurd (blank ',' comma) (by decide)

/-- A single argument that is blank would be none. -/
theorem arguments_eq_ok_iff :
    arguments inner = .ok pieces ↔
      Divided pieces inner ∧ (∀ piece ∈ pieces, IsArgument piece) ∧
        ∀ piece, pieces = [piece] → ¬ Blank piece := by
  unfold arguments
  constructor
  · intro given
    split at given
    · rename_i blank
      cases given
      exact ⟨.inl ⟨rfl, trim_eq_nil_iff.mp blank⟩, by simp, by simp⟩
    · rename_i visible
      obtain ⟨some, rfl, each⟩ := cutArguments_eq_ok_iff.1 given
      refine ⟨.inr ⟨some, rfl⟩, each, ?_⟩
      rintro piece rfl
      simpa [trim_eq_nil_iff, joined] using visible
  · rintro ⟨⟨rfl, blank⟩ | ⟨some, rfl⟩, each, single⟩
    · rw [if_pos (trim_eq_nil_iff.mpr blank)]
    · rw [if_neg fun empty => not_blank_joined some single (trim_eq_nil_iff.mp empty)]
      exact cutArguments_eq_ok_iff.2 ⟨some, rfl, each⟩

theorem beforeLast?_eq_some_iff : beforeLast? mark text = some before ↔ text = before ++ [mark] := by
  unfold beforeLast?
  constructor
  · intro cut
    split at cut
    · rename_i last
      cases cut
      rw [← List.dropLast_append_getLast? mark last]
      simp
    · cases cut
  · rintro rfl
    simp

theorem takeApart_eq (text : List Char) :
    takeApart text =
      match cutUnquoted '(' false text with
      | .error fault => .error fault
      | .ok none =>
        match cutUnquoted ')' false text with
        | .error fault => .error fault
        | .ok none => .ok none
        | .ok (some _) => .error .closingWithoutOpening
      | .ok (some (front, rest)) =>
        if Text.trim front = [] then .error .missingName
        else
          match beforeLast? ')' rest with
          | none => .error .callNotClosed
          | some inner => (arguments inner).map fun args =>
            some (Text.trim front, args.map Text.trim) := by
  unfold takeApart
  rcases cutUnquoted '(' false text with fault | (_ | ⟨front, rest⟩)
  · rfl
  · rcases cutUnquoted ')' false text with fault | (_ | parts) <;> rfl
  · simp only [bind, Except.bind]
    by_cases unnamed : Text.trim front = []
    · rw [if_pos unnamed, if_pos unnamed]
      rfl
    · rw [if_neg unnamed, if_neg unnamed]
      cases beforeLast? ')' rest with
      | none => rfl
      | some inner =>
        cases given : arguments inner <;> simp only [given] <;> rfl

theorem takeApart_eq_none_iff :
    takeApart text = .ok none ↔
      '(' ∉ outside false text ∧ ')' ∉ outside false text ∧ Paired text := by
  have opening : cutUnquoted '(' false text = .ok none ↔ _ := cutUnquoted_eq_none_iff (by decide)
  have closing : cutUnquoted ')' false text = .ok none ↔ _ := cutUnquoted_eq_none_iff (by decide)
  rw [takeApart_eq]
  constructor
  · intro taken
    split at taken
    · cases taken
    · rename_i first
      split at taken
      · cases taken
      · rename_i second
        exact ⟨(opening.mp first).1, closing.mp second⟩
      · cases taken
    · split at taken
      · cases taken
      · split at taken
        · cases taken
        · rename_i inner _
          cases cut : arguments inner with
          | error fault =>
            rw [cut] at taken
            cases taken
          | ok pieces =>
            rw [cut] at taken
            cases taken
  · rintro ⟨noOpening, noClosing, paired⟩
    rw [opening.mpr ⟨noOpening, paired⟩, closing.mpr ⟨noClosing, paired⟩]

theorem takeApart_eq_some_iff :
    takeApart text = .ok (some (name, args)) ↔
      ∃ front inner pieces, text = front ++ '(' :: (inner ++ [')']) ∧
        '(' ∉ outside false front ∧ Paired front ∧ Text.trim front = name ∧ name ≠ [] ∧
        arguments inner = .ok pieces ∧ pieces.map Text.trim = args := by
  constructor
  · intro taken
    obtain ⟨front, rest, inner, pieces, cut, same, named, last, given, trimmed⟩ :=
      takeApart_eq_some taken
    obtain ⟨rfl, first, paired⟩ := (cutUnquoted_eq_some_iff (by decide)).mp cut
    rw [beforeLast?_eq_some_iff] at last
    exact ⟨front, inner, pieces, by rw [last], first, paired, same.symm, named, given,
      trimmed.symm⟩
  · rintro ⟨front, inner, pieces, rfl, first, paired, rfl, named, given, rfl⟩
    have cut : cutUnquoted '(' false (front ++ '(' :: (inner ++ [')'])) =
        .ok (some (front, inner ++ [')'])) :=
      (cutUnquoted_eq_some_iff (by decide)).mpr ⟨rfl, first, paired⟩
    rw [takeApart_eq, cut]
    simp only [if_neg named, beforeLast?_eq_some_iff.2 rfl, given]
    rfl

theorem read_eq (text : List Char) :
    read text =
      match takeApart text with
      | .error fault => .error (.formula fault (String.ofList text))
      | .ok none => .ok (.literal (String.ofList text))
      | .ok (some (name, args)) => (args.mapM read).map (.call (String.ofList name)) := by
  rw [read]
  split <;> rename_i taken <;> simp only [taken]
  rename_i name args
  have each : args.attach.mapM (fun arg => read arg.1) = args.mapM read := by
    simp only [List.mapM_subtype, List.unattach_attach]
  rw [each]

theorem read_eq_ok (readable : read text = .ok e) :
    (e = .literal (String.ofList text) ∧ '(' ∉ outside false text ∧ ')' ∉ outside false text ∧
        Paired text) ∨
      ∃ front inner pieces args, text = front ++ '(' :: (inner ++ [')']) ∧
        '(' ∉ outside false front ∧ Paired front ∧ Text.trim front ≠ [] ∧
        arguments inner = .ok pieces ∧
        List.Forall₂ (fun piece arg => read (Text.trim piece) = .ok arg) pieces args ∧
        e = .call (String.ofList (Text.trim front)) args := by
  rw [read_eq] at readable
  split at readable
  · cases readable
  · rename_i taken
    cases readable
    exact .inl ⟨rfl, takeApart_eq_none_iff.1 taken⟩
  · rename_i name args taken
    obtain ⟨front, inner, pieces, rfl, first, paired, rfl, named, given, rfl⟩ :=
      takeApart_eq_some_iff.1 taken
    cases each : (pieces.map Text.trim).mapM read with
    | error fault =>
      rw [each] at readable
      cases readable
    | ok args =>
      rw [each] at readable
      cases readable
      rw [mapM_eq_ok_iff, List.forall₂_map_left_iff] at each
      exact .inr ⟨front, inner, pieces, args, rfl, first, paired, named, given, each, rfl⟩

end Expr

end ReportSheets
