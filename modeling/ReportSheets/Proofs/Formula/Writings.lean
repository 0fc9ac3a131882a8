import ReportSheets.Formula.Expr
import ReportSheets.Proofs.Formula.Balance

namespace ReportSheets

structure Text.IsToken (marks text : List Char) : Prop where
  trimmed : Trimmed text
  paired : Paired text
  free : ∀ mark ∈ marks, mark ∉ outside false text

theorem Text.isToken_iff {marks text : List Char} :
    IsToken marks text ↔
      Trimmed text ∧ Paired text ∧ ∀ mark ∈ marks, mark ∉ outside false text :=
  ⟨fun token => ⟨token.trimmed, token.paired, token.free⟩,
    fun ⟨trimmed, paired, free⟩ => ⟨trimmed, paired, free⟩⟩

instance (marks text : List Char) : Decidable (Text.IsToken marks text) :=
  @decidable_of_iff _ _ Text.isToken_iff.symm
    (@instDecidableAnd _ _ inferInstance
      (@instDecidableAnd _ _ inferInstance (List.decidableBAll _ marks)))

namespace Expr

open Text

theorem byArguments {motive : Expr → Prop} (literal : ∀ text, motive (.literal text))
    (call : ∀ name args, (∀ arg ∈ args, motive arg) → motive (.call name args)) :
    ∀ e, motive e
  | .literal text => literal text
  | .call name args => call name args fun arg _ => byArguments literal call arg

/-- The texts that an expression may be written as: blanks may stand around names and arguments. -/
inductive Prints : Expr → List Char → Prop
  | literal {text : String} {shown : List Char} (padded : Padded text.toList shown) :
      Prints (.literal text) shown
  | call {name : String} {args : List Expr} {pieces : List (List Char)}
      {front inner right : List Char} (padded : Padded name.toList front)
      (each : List.Forall₂ Prints args pieces) (divided : Divided pieces inner)
      (after : Blank right) : Prints (.call name args) (front ++ '(' :: (inner ++ [')']) ++ right)

def parentheses : List Char := ['(', ')']

def dividers : List Char := ['(', ')', ',']

/-- Literals and names are tokens, those of arguments without parentheses and commas. A name is not
empty, and a single argument is not the empty literal. -/
inductive Sound : List Char → List Char → Expr → Prop
  | literal {inLiteral inName : List Char} {text : String} (token : IsToken inLiteral text.toList) :
      Sound inLiteral inName (.literal text)
  | call {inLiteral inName : List Char} {name : String} {args : List Expr}
      (token : IsToken inName name.toList) (named : name ≠ "") (given : args ≠ [.literal ""])
      (each : ∀ arg ∈ args, Sound dividers dividers arg) : Sound inLiteral inName (.call name args)

def WellFormed (e : Expr) : Prop := e.Sound parentheses parentheses

def Readable (e : Expr) : Prop := e.Sound parentheses ['(']

variable {inLiteral inName marks front inner shown text right : List Char}
  {pieces : List (List Char)} {e : Expr} {args : List Expr} {name : String}

theorem Sound.mono {ofLiteral ofName : List Char} (sound : e.Sound inLiteral inName)
    (literals : ofLiteral ⊆ inLiteral) (names : ofName ⊆ inName) : e.Sound ofLiteral ofName := by
  cases sound with
  | literal token =>
    exact .literal ⟨token.trimmed, token.paired, fun mark member => token.free mark (literals member)⟩
  | call token named given each =>
    exact .call ⟨token.trimmed, token.paired, fun mark member => token.free mark (names member)⟩
      named given each

theorem WellFormed.readable (wellFormed : e.WellFormed) : e.Readable :=
  wellFormed.mono (List.Subset.refl _) (by simp [parentheses])

theorem Prints.padded (prints : e.Prints shown) (padded : Padded shown text) : e.Prints text := by
  obtain ⟨l, r, before, behind, rfl⟩ := padded
  cases prints with
  | literal padded => exact .literal ((padded.append_left before).append_right behind)
  | @call name args pieces front inner right padded each divided after =>
    have regrouped : l ++ (front ++ '(' :: (inner ++ [')']) ++ right) ++ r =
        (l ++ front) ++ '(' :: (inner ++ [')']) ++ (right ++ r) := by simp
    rw [regrouped]
    exact .call (padded.append_left before) each divided (after.append behind)

/-- A printed expression shows something, unless it is the empty literal. -/
theorem Prints.not_blank (prints : e.Prints shown) (sound : e.Sound inLiteral inName)
    (visible : e ≠ .literal "") : ¬ Blank shown := by
  intro blank
  cases prints with
  | @literal text shown padded =>
    cases sound with
    | literal token =>
      apply visible
      have empty : text.toList = [] := by
        rw [← trim_eq_of_padded padded token.trimmed]
        exact trim_eq_nil_iff.mpr blank
      rw [String.toList_eq_nil_iff.mp empty]
  | call padded each divided after =>
    exact absurd (blank '(' (by simp)) (by decide)

/-- A name or a literal among arguments stays on the ground. -/
theorem isArgument_of_token (token : IsToken dividers text) (padded : Padded text shown) :
    IsArgument shown := by
  have free : ∀ mark ∈ dividers, isBlank mark = false → mark ∉ outside false shown := by
    intro mark member visible
    rw [mem_outside_padded padded visible]
    exact token.free mark member
  apply Level.reach?_ground (by decide) ((paired_padded padded).mpr token.paired)
  intro c member
  refine ⟨?_, ?_, ?_⟩
  · rintro rfl
    exact free '(' (by decide) (by decide) member
  · rintro rfl
    exact free ')' (by decide) (by decide) member
  · intro comma
    rw [List.mem_singleton.mp comma] at member
    exact free ',' (by decide) (by decide) member

theorem arguments_of_prints (each : List.Forall₂ Prints args pieces) (divided : Divided pieces inner)
    (sound : ∀ arg ∈ args, arg.Sound dividers dividers) (given : args ≠ [.literal ""])
    (whole : ∀ arg ∈ args, ∀ piece, arg.Prints piece → IsArgument piece) :
    arguments inner = .ok pieces := by
  refine arguments_eq_ok_iff.mpr ⟨divided, ?_, ?_⟩
  · intro piece member
    obtain ⟨arg, among, prints⟩ := exists_of_mem_right each member
    exact whole arg among piece prints
  -- a single blank piece would be the empty literal alone
  rintro piece rfl
  obtain ⟨arg, rest, prints, none, rfl⟩ := List.forall₂_cons_right_iff.mp each
  rw [List.forall₂_nil_right_iff] at none
  subst none
  apply prints.not_blank (sound arg List.mem_cons_self)
  rintro rfl
  exact given rfl

/-- What an argument is written as is taken for one argument. -/
theorem isArgument_of_prints (e : Expr) :
    ∀ {shown : List Char}, e.Sound dividers dividers → e.Prints shown → IsArgument shown := by
  induction e using byArguments with
  | literal text =>
    intro shown sound prints
    cases sound with
    | literal token =>
      cases prints with
      | literal padded => exact isArgument_of_token token padded
  | call name args ih =>
    intro shown sound prints
    cases sound with
    | call token named given sound =>
      cases prints with
      | @call _ _ pieces front inner right padded each divided after =>
        have inside := arguments_of_prints each divided sound given fun arg among _ =>
          ih arg among (sound arg among)
        have comma : ∀ mark ∈ [','], isBlank mark = false := by simp [isBlank]
        have stays : Level.reach? [','] .ground right = some .ground :=
          Level.reach?_blank comma (by decide) after
        have front := isArgument_of_token token padded
        rw [IsArgument] at front ⊢
        rw [List.append_assoc, Level.reach?_append, front, Option.bind_some, Level.reach?_append,
          reach?_parentheses (by decide) inside]
        exact stays

/-- Without the blanks around it a written call begins with the name and ends with a parenthesis. -/
theorem trim_call (padded : Padded text front) (trimmed : Trimmed text) (named : text ≠ [])
    (after : Blank right) (inner : List Char) :
    ∃ lead, Padded text lead ∧
      Text.trim (front ++ '(' :: (inner ++ [')']) ++ right) = lead ++ '(' :: (inner ++ [')']) := by
  obtain ⟨left, gap, before, between, rfl⟩ := padded
  refine ⟨text ++ gap, (padded_self text).append_right between, ?_⟩
  apply trim_eq_of_padded ⟨left, right, before, after, by simp⟩
  obtain ⟨c, rest, rfl⟩ := List.exists_cons_of_ne_nil named
  constructor
  · intro d member
    exact trimmed.1 d member
  · intro d member
    have regrouped : c :: rest ++ gap ++ '(' :: (inner ++ [')']) =
        (c :: rest ++ gap ++ '(' :: inner) ++ [')'] := by simp
    rw [regrouped, List.getLast?_concat, Option.mem_some] at member
    rw [← member]
    decide

theorem read_of_prints (e : Expr) :
    ∀ {inLiteral inName shown : List Char}, e.Sound inLiteral inName → parentheses ⊆ inLiteral →
      '(' ∈ inName → e.Prints shown → read (Text.trim shown) = .ok e := by
  induction e using byArguments with
  | literal text =>
    intro inLiteral inName shown sound literals names prints
    cases sound with
    | literal token =>
      cases prints with
      | literal padded =>
        have taken := takeApart_eq_none_iff.mpr ⟨token.free '(' (literals (by decide)),
          token.free ')' (literals (by decide)), token.paired⟩
        rw [trim_eq_of_padded padded token.trimmed, read_eq, taken, String.ofList_toList]
  | call name args ih =>
    intro inLiteral inName shown sound literals names prints
    cases sound with
    | call token named given sound =>
      cases prints with
      | @call _ _ pieces front inner right padded each divided after =>
        have inside := arguments_of_prints each divided sound given fun arg among _ =>
          isArgument_of_prints arg (sound arg among)
        have some : name.toList ≠ [] := fun empty => named (String.toList_eq_nil_iff.mp empty)
        obtain ⟨lead, padded, trimmed⟩ := trim_call padded token.trimmed some after inner
        have taken : takeApart (lead ++ '(' :: (inner ++ [')'])) =
            .ok (.some (name.toList, pieces.map Text.trim)) := by
          refine takeApart_eq_some_iff.mpr ⟨lead, inner, pieces, rfl, ?_,
            (paired_padded padded).mpr token.paired, trim_eq_of_padded padded token.trimmed, some,
            inside, rfl⟩
          rw [mem_outside_padded padded (by decide)]
          exact token.free '(' names
        have again : (pieces.map Text.trim).mapM read = .ok args := by
          have back : ∀ arg ∈ args, ∀ piece, arg.Prints piece → read (Text.trim piece) = .ok arg :=
            fun arg among piece => ih arg among (sound arg among) (by decide) (by decide)
          rw [mapM_eq_ok_iff, List.forall₂_map_left_iff]
          exact (imp_of_mem each back).flip
        rw [trimmed, read_eq, taken]
        simp only [again, String.ofList_toList]
        rfl

theorem isToken_dividers {next : Level} (token : IsToken ['('] text) (padded : Padded text front)
    (reached : Level.reach? [','] .ground front = some next) : IsToken dividers text := by
  have unopened : '(' ∉ outside false front := by
    rw [mem_outside_padded padded (by decide)]
    exact token.free '(' List.mem_cons_self
  obtain ⟨-, free⟩ := Level.of_reach?_unopened unopened reached
  refine ⟨token.trimmed, token.paired, ?_⟩
  intro mark member inText
  simp only [dividers, List.mem_cons, List.not_mem_nil, or_false] at member
  rcases member with rfl | rfl | rfl
  · exact token.free '(' List.mem_cons_self inText
  · have inFront := (mem_outside_padded padded (by decide)).mpr inText
    exact (free ')' inFront).1 rfl
  · have inFront := (mem_outside_padded padded (by decide)).mpr inText
    exact (free ',' inFront).2 List.mem_cons_self

theorem Readable.inArguments (readable : e.Readable) (prints : e.Prints shown)
    (whole : IsArgument shown) : e.Sound dividers dividers := by
  cases readable with
  | literal token =>
    cases prints with
    | literal padded =>
      have opening : IsToken ['('] _ := ⟨token.trimmed, token.paired, by
        intro mark member
        rw [List.mem_singleton.mp member]
        exact token.free '(' (by decide)⟩
      exact .literal (isToken_dividers opening padded whole)
  | call token named given each =>
    cases prints with
    | @call _ _ _ front inner right padded _ _ _ =>
      rw [IsArgument, List.append_assoc, Level.reach?_append] at whole
      obtain ⟨next, reached, -⟩ := Option.bind_eq_some_iff.mp whole
      exact .call (isToken_dividers token padded reached) named given each

theorem prints_of_read (text : List Char) {e : Expr} (trimmed : Trimmed text)
    (readable : read text = .ok e) : e.Readable ∧ e.Prints text := by
  -- by the length of the text: the pieces of a call are shorter than the call
  rcases read_eq_ok readable with ⟨rfl, unopened, unclosed, paired⟩ |
    ⟨front, inner, pieces, args, whole, first, paired, named, given, each, rfl⟩
  · have token : IsToken parentheses (String.ofList text).toList := by
      rw [String.toList_ofList]
      exact ⟨trimmed, paired, by simp [parentheses, unopened, unclosed]⟩
    refine ⟨.literal token, .literal ?_⟩
    rw [String.toList_ofList]
    exact padded_self text
  · obtain ⟨divided, arguments, single⟩ := arguments_eq_ok_iff.mp given
    have inside : ∀ piece ∈ pieces, ∀ arg, read (Text.trim piece) = .ok arg →
        arg.Readable ∧ arg.Prints piece := by
      intro piece member arg readable
      have short := length_of_mem_arguments given piece member
      have shorter := length_trim_le piece
      have size := congrArg List.length whole
      obtain ⟨sound, prints⟩ := prints_of_read (Text.trim piece) (trimmed_trim piece) readable
      exact ⟨sound, prints.padded (padded_trim piece)⟩
    have printed : List.Forall₂ Prints args pieces :=
      (imp_of_mem each fun piece member arg readable => (inside piece member arg readable).2).flip
    have token : IsToken ['('] (String.ofList (Text.trim front)).toList := by
      rw [String.toList_ofList]
      refine ⟨trimmed_trim front, (paired_padded (padded_trim front)).mp paired, ?_⟩
      intro mark member
      rw [List.mem_singleton.mp member, ← mem_outside_padded (padded_trim front) (by decide)]
      exact first
    refine ⟨.call token ?_ ?_ ?_, ?_⟩
    · intro empty
      apply named
      rw [← String.toList_ofList (l := Text.trim front), empty]
      rfl
    · rintro rfl
      obtain ⟨piece, rest, readable, none, rfl⟩ := List.forall₂_cons_right_iff.mp each
      rw [List.forall₂_nil_right_iff] at none
      subst none
      obtain ⟨-, prints⟩ := inside piece List.mem_cons_self _ readable
      cases prints with
      | literal padded =>
        apply single piece rfl
        rw [← trim_eq_nil_iff]
        exact trim_eq_of_padded padded (by simp [Trimmed])
    · intro arg member
      obtain ⟨piece, among, readable⟩ := exists_of_mem_right each member
      obtain ⟨sound, prints⟩ := inside piece among arg readable
      exact sound.inArguments prints (arguments piece among)
    · have prints : (call (String.ofList (Text.trim front)) args).Prints
          (front ++ '(' :: (inner ++ [')']) ++ []) := by
        apply Prints.call _ printed divided blank_nil
        rw [String.toList_ofList]
        exact padded_trim front
      rwa [List.append_nil, ← whole] at prints
termination_by text.length
decreasing_by
  simp only [List.length_append, List.length_cons] at size
  omega

/-- What is read of a formula is what the formula is a writing of. -/
theorem parse_eq_ok_iff {formula : String} :
    parse formula = .ok e ↔ e.Readable ∧ e.Prints formula.toList := by
  constructor
  · intro readable
    obtain ⟨sound, prints⟩ := prints_of_read _ (trimmed_trim formula.toList) readable
    exact ⟨sound, prints.padded (padded_trim formula.toList)⟩
  · rintro ⟨readable, prints⟩
    exact read_of_prints e readable (List.Subset.refl _) List.mem_cons_self prints

theorem writtenArgs_eq : ∀ args : List Expr, writtenArgs args = joined (args.map written)
  | [] => by rw [writtenArgs, List.map_nil, joined]
  | [arg] => by simp [writtenArgs, joined]
  | arg :: next :: args => by
    rw [writtenArgs, writtenArgs_eq (next :: args)]
    exact (joined_cons_cons _ _ _).symm

theorem prints_written (e : Expr) : e.Prints e.written := by
  induction e using byArguments with
  | literal text =>
    rw [written]
    exact .literal (padded_self text.toList)
  | call name args ih =>
    have each : List.Forall₂ Prints args (args.map written) := by
      rw [List.forall₂_map_right_iff, List.forall₂_same]
      exact ih
    have divided : Divided (args.map written) (writtenArgs args) := by
      rw [writtenArgs_eq]
      cases args with
      | nil => exact .inl ⟨rfl, blank_nil⟩
      | cons first more => exact .inr ⟨List.cons_ne_nil _ _, rfl⟩
    have prints := Prints.call (padded_self name.toList) each divided blank_nil
    rwa [List.append_nil, ← List.cons_append, ← List.append_assoc, ← written] at prints

/-- An expression whose texts are safe even inside arguments is read from its written form. -/
theorem parse_of_written {e : Expr} {formula : String} (sound : e.Sound dividers dividers)
    (written : formula.toList = e.written) : parse formula = .ok e := by
  rw [parse_eq_ok_iff, written]
  exact ⟨sound.mono (by simp [parentheses, dividers]) (by simp [dividers]), prints_written e⟩

/-- A well-formed expression is read from each of its writings. What was read from some text is read
again from its written form and from each of its writings. The written form is one of them. -/
theorem parse_writings :
    (∀ (e : Expr) (formula : String), e.WellFormed → e.Prints formula.toList →
      parse formula = .ok e) ∧
    (∀ (e : Expr) (formula : String), parse formula = .ok e →
      parse (String.ofList e.written) = .ok e ∧
        ∀ again : String, e.Prints again.toList → parse again = .ok e) ∧
    ∀ e : Expr, e.Prints e.written := by
  refine ⟨?_, ?_, prints_written⟩
  · intro e formula wellFormed prints
    exact parse_eq_ok_iff.mpr ⟨wellFormed.readable, prints⟩
  · intro e formula readable
    have again : ∀ again : String, e.Prints again.toList → parse again = .ok e := by
      intro again prints
      exact parse_eq_ok_iff.mpr ⟨(parse_eq_ok_iff.mp readable).1, prints⟩
    refine ⟨again _ ?_, again⟩
    rw [String.toList_ofList]
    exact prints_written e

theorem parse_writings_of_quoted_comma :
    parse " F( \"a,b\" ) " = .ok (.call "F" [.literal "\"a,b\""]) ∧
      parse "F(\"a,b\")" = .ok (.call "F" [.literal "\"a,b\""]) := by
  obtain ⟨reads, again, -⟩ := parse_writings
  have wellFormed : (call "F" [.literal "\"a,b\""]).WellFormed := by
    refine .call (by decide) (by decide) (by simp) ?_
    intro arg member
    rw [List.mem_singleton.mp member]
    exact .literal (by decide)
  have inside : (literal "\"a,b\"").Prints " \"a,b\" ".toList :=
    .literal ⟨[' '], [' '], by decide, by decide, rfl⟩
  have after : Blank [' '] := by decide
  have prints : (call "F" [.literal "\"a,b\""]).Prints " F( \"a,b\" ) ".toList :=
    .call ⟨[' '], [], by decide, by decide, rfl⟩ (.cons inside .nil)
      (.inr ⟨List.cons_ne_nil _ _, rfl⟩) after
  have readable := reads _ _ wellFormed prints
  exact ⟨readable, (again _ _ readable).1⟩

end Expr

end ReportSheets
