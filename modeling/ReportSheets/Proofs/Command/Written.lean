import ReportSheets.Command.Reading
import ReportSheets.Proofs.Text.Digits
import ReportSheets.Proofs.Text.Words

namespace ReportSheets

open Text

theorem formFileName_of_bare {form : String}
    (bare : formExtension.isSuffixOf form.toList = false) :
    formFileName form = form ++ ".xml" := by
  rw [formFileName, bare]
  exact String.ofList_append.trans (by rw [String.ofList_toList]; rfl)

theorem formFileName_of_extended {form : String} (extended : formExtension <:+ form.toList) :
    formFileName form = form := by
  rw [formFileName, if_pos (List.isSuffixOf_iff_suffix.mpr extended)]

theorem formFileName_extended (form : String) : formFileName (form ++ ".xml") = form ++ ".xml" := by
  apply formFileName_of_extended
  rw [String.toList_append]
  exact List.suffix_append _ _

theorem formFileName_eq (form : String) :
    formFileName form = if formExtension <:+ form.toList then form else form ++ ".xml" := by
  split
  · rename_i extended
    exact formFileName_of_extended extended
  · rename_i bare
    apply formFileName_of_bare
    rwa [← List.isSuffixOf_iff_suffix, Bool.not_eq_true] at bare

theorem solid_integer (n : Int) : Solid (integer n) := by
  intro c member
  rcases sign_or_digit_of_mem_integer member with rfl | digit
  · decide
  · have bounds := isDigit_iff.mp digit
    exact isBlank_of_visible (by omega) (by omega)

theorem formFileName_formFileName (form : String) :
    formFileName (formFileName form) = formFileName form := by
  rw [formFileName_eq form]
  split
  · rename_i extended
    exact formFileName_of_extended extended
  · exact formFileName_extended form

theorem formFileName_bounds {form : String} (named : form ≠ "") (single : ',' ∉ form.toList) :
    formFileName form ≠ "" ∧ ',' ∉ (formFileName form).toList := by
  rw [formFileName_eq]
  split
  · exact ⟨named, single⟩
  · refine ⟨by simp [named], ?_⟩
    rw [String.toList_append, List.mem_append]
    rintro (inForm | inExtension)
    · exact single inForm
    · exact absurd inExtension (by decide)

namespace SheetRef

theorem read_name (name : List Char) : read (nameMark ++ name) = .ok (.name (String.ofList name)) := by
  rw [read, after?_eq_some_iff.mpr rfl]

theorem read_number {digits : List Char} {n : Int}
    (number : readInteger? leastNumber greatestNumber digits = some n) :
    read (numberMark ++ digits) = .ok (.number n) := by
  have other : after? nameMark (numberMark ++ digits) = none := rfl
  have own : after? numberMark (numberMark ++ digits) = some digits := after?_eq_some_iff.mpr rfl
  simp only [read, other, own, number]

def Writable : SheetRef → Prop
  | .name sheet => Solid sheet.toList
  | .number n => leastNumber ≤ n ∧ n ≤ greatestNumber

instance : DecidablePred Writable
  | .name sheet => inferInstanceAs (Decidable (Solid sheet.toList))
  | .number n => inferInstanceAs (Decidable (leastNumber ≤ n ∧ n ≤ greatestNumber))

variable {ref : SheetRef}

theorem read_written (writable : ref.Writable) : read ref.written = .ok ref := by
  cases ref with
  | name sheet => rw [written, read_name, String.ofList_toList]
  | number n => rw [written, read_number (readInteger?_integer writable.1 writable.2)]

theorem solid_written (writable : ref.Writable) : Solid ref.written := by
  have mark : Solid nameMark ∧ Solid numberMark := by decide
  cases ref with
  | name sheet => exact mark.1.append writable
  | number n => exact mark.2.append (solid_integer n)

theorem written_ne_nil (ref : SheetRef) : ref.written ≠ [] := by
  cases ref <;> exact List.append_ne_nil_of_left_ne_nil (by decide) _

end SheetRef

namespace SheetCommand

def Writable : SheetCommand → Prop
  | .load template => template ≠ "" ∧ Solid template.toList
  | .activate sheet => sheet.Writable
  | .clone source newName => source.Writable ∧ Solid newName.toList
  | .delete sheet => sheet.Writable

instance : DecidablePred Writable
  | .load template => inferInstanceAs (Decidable (template ≠ "" ∧ Solid template.toList))
  | .activate sheet => inferInstanceAs (Decidable sheet.Writable)
  | .clone source newName => inferInstanceAs (Decidable (source.Writable ∧ Solid newName.toList))
  | .delete sheet => inferInstanceAs (Decidable sheet.Writable)

variable {command : SheetCommand} {parameter : List Char}

def words (command : SheetCommand) : List (List Char) :=
  command.verb.name.toList :: command.parameters

theorem words_visible (writable : command.Writable) :
    ∀ word ∈ command.words, Solid word ∧ word ≠ [] := by
  have verb : Solid command.verb.name.toList ∧ command.verb.name.toList ≠ [] := by
    cases command.verb <;> decide
  rw [words, List.forall_mem_cons]
  refine ⟨verb, ?_⟩
  cases command with
  | load template =>
    rw [parameters, List.forall_mem_singleton]
    exact ⟨writable.2, by simpa using writable.1⟩
  | activate sheet =>
    rw [parameters, List.forall_mem_singleton]
    exact ⟨SheetRef.solid_written writable, sheet.written_ne_nil⟩
  | clone source newName =>
    have mark : Solid newNameMark := by decide
    rw [parameters, List.forall_mem_cons, List.forall_mem_singleton]
    exact ⟨⟨SheetRef.solid_written writable.1, source.written_ne_nil⟩, mark.append writable.2,
      List.append_ne_nil_of_left_ne_nil (by decide) _⟩
  | delete sheet =>
    rw [parameters, List.forall_mem_singleton]
    exact ⟨SheetRef.solid_written writable, sheet.written_ne_nil⟩

/-- A parameter with the words of a command is read as that command. -/
theorem read_of_words (writable : command.Writable)
    (same : Text.words parameter = command.words) : read parameter = .ok command := by
  cases command with
  | load template =>
    rw [read, same]
    simp [words, verb, parameters, SheetVerb.named?_name, readParameters]
  | activate sheet =>
    rw [read, same]
    simp [words, verb, parameters, SheetVerb.named?_name, readParameters,
      SheetRef.read_written writable, Except.map]
  | clone source newName =>
    have target : after? newNameMark (newNameMark ++ newName.toList) = some newName.toList :=
      after?_eq_some_iff.mpr rfl
    rw [read, same]
    simp [words, verb, parameters, SheetVerb.named?_name, readParameters,
      SheetRef.read_written writable.1, target, bind, Except.bind, pure, Except.pure]
  | delete sheet =>
    rw [read, same]
    simp [words, verb, parameters, SheetVerb.named?_name, readParameters,
      SheetRef.read_written writable, Except.map]

end SheetCommand

namespace Command

def formLine (form mode : String) : String := formVerb ++ "=" ++ form ++ "," ++ mode

def sheetsLine (parameter : String) : String := sheetsVerb ++ "=" ++ parameter

theorem parse_formLine {form mode : String} (named : form ≠ "") (single : ',' ∉ form.toList)
    (last : ',' ∉ mode.toList) : parse (formLine form mode) =
      match Text.readInteger? leastMode greatestMode (Text.trim mode.toList) with
      | some n => .ok (.setForm (formFileName form) n)
      | none => .error (.modeNotInteger mode) := by
  have characters : (formLine form mode).toList =
      formVerb.toList ++ '=' :: (form.toList ++ ',' :: mode.toList) := by
    simp [formLine]
  have cut : Text.cutAt '=' (formVerb.toList ++ '=' :: (form.toList ++ ',' :: mode.toList)) =
      some (formVerb.toList, form.toList ++ ',' :: mode.toList) := rfl
  have visible : form.toList ≠ [] := by simpa using named
  have pieces : Text.pieces (· == ',') (form.toList ++ ',' :: mode.toList) =
      [form.toList, mode.toList] := by
    rw [pieces_append_mark (beq_false_of_not_mem single) (beq_self_eq_true ','),
      pieces_unmarked (beq_false_of_not_mem last)]
  rw [parse, characters, read, cut]
  cases number : Text.readInteger? leastMode greatestMode (Text.trim mode.toList) <;>
    simp only [if_pos, readForm, pieces, if_neg visible, String.ofList_toList, number]

theorem read_onSheets (parameter : List Char) :
    read (sheetsVerb.toList ++ '=' :: parameter) = (SheetCommand.read parameter).map .onSheets := by
  have cut : cutAt '=' (sheetsVerb.toList ++ '=' :: parameter) =
      some (sheetsVerb.toList, parameter) := rfl
  have different : sheetsVerb.toList ≠ formVerb.toList := by decide
  rw [read, cut]
  simp only [if_neg different, if_pos]

theorem parse_sheetsLine (parameter : String) :
    parse (sheetsLine parameter) = (SheetCommand.read parameter.toList).map .onSheets := by
  have characters : (sheetsLine parameter).toList = sheetsVerb.toList ++ '=' :: parameter.toList := by
    simp [sheetsLine]
  rw [parse, characters, read_onSheets]

/-- The lines that the grammar has for a command: any blanks around the mode, and blanks between
the words of a sheet command, where they may stand at both ends as well. -/
inductive Spelled : Command → String → Prop
  | form {form mode : String} {n : Int} (named : form ≠ "") (single : ',' ∉ form.toList)
      (low : leastMode ≤ n) (high : n ≤ greatestMode) (number : Padded (integer n) mode.toList) :
      Spelled (.setForm (formFileName form) n) (formLine form mode)
  | sheets {command : SheetCommand} {parameter : String} {text : List Char}
      (writable : command.Writable) (parted : Parted command.words text)
      (around : Padded text parameter.toList) : Spelled (.onSheets command) (sheetsLine parameter)

def Writable : Command → Prop
  | .setForm formFile mode =>
    (∃ form, form ≠ "" ∧ ',' ∉ form.toList ∧ formFile = formFileName form) ∧
      leastMode ≤ mode ∧ mode ≤ greatestMode
  | .onSheets command => command.Writable

variable {command other : Command} {line : String}

theorem Spelled.parse_eq (spelled : Spelled command line) : parse line = .ok command := by
  cases spelled with
  | @form form mode n named single low high number =>
    -- Neither blanks nor a sign nor digits are commas, so the form ends at the only one.
    have last : ',' ∉ mode.toList := by
      obtain ⟨left, right, before, after, whole⟩ := number
      have comma : isBlank ',' = false := by decide
      rw [whole, List.mem_append, List.mem_append]
      rintro ((inLeft | inNumber) | inRight)
      · exact absurd (before _ inLeft) (by simp [comma])
      · exact absurd (sign_or_digit_of_mem_integer inNumber) (by decide)
      · exact absurd (after _ inRight) (by simp [comma])
    rw [parse_formLine named single last, trim_eq_of_padded number (solid_integer n).trimmed,
      readInteger?_integer low high]
  | sheets writable parted around =>
    have same := parted.words_eq (SheetCommand.words_visible writable) around
    rw [parse_sheetsLine, SheetCommand.read_of_words writable same]
    rfl

/-- With nothing more than it needs, the line of a command is one of those it is spelled as. -/
theorem spelled_written (writable : command.Writable) :
    Spelled command (String.ofList command.written) := by
  cases command with
  | setForm formFile mode =>
    obtain ⟨⟨form, named, single, rfl⟩, low, high⟩ := writable
    obtain ⟨visible, whole⟩ := formFileName_bounds named single
    have line : String.ofList (written (.setForm (formFileName form) mode)) =
        formLine (formFileName form) (String.ofList (integer mode)) := by
      rw [← String.toList_inj]
      simp [written, formLine]
    rw [line]
    have number : Padded (integer mode) (String.ofList (integer mode)).toList := by
      rw [String.toList_ofList]
      exact padded_self _
    have spelled := Spelled.form visible whole low high number
    rwa [formFileName_formFileName] at spelled
  | onSheets command =>
    let text := command.verb.name.toList ++ command.parameters.flatMap (' ' :: ·)
    have line : String.ofList (written (.onSheets command)) = sheetsLine (String.ofList text) := by
      rw [← String.toList_inj]
      simp [written, sheetsLine, text]
    rw [line]
    have around : Padded text (String.ofList text).toList := by
      rw [String.toList_ofList]
      exact padded_self text
    exact .sheets writable (parted_flatMap _ _) around

/-- Reading a command undoes writing it: every command in the bounds of the grammar has a line, each
of its lines is read as it and is a line of no other, where the form of a form file is known up to the
extension. -/
theorem parse_spelled :
    (∀ command : Command, command.Writable → Spelled command (String.ofList command.written)) ∧
    (∀ (command : Command) (line : String), Spelled command line → parse line = .ok command) ∧
    (∀ (command other : Command) (line : String),
      Spelled command line → Spelled other line → command = other) ∧
    ∀ form : String, formFileName form =
      if formExtension <:+ form.toList then form else form ++ ".xml" := by
  refine ⟨?_, ?_, ?_, formFileName_eq⟩
  · intro command writable
    exact spelled_written writable
  · intro command line spelled
    exact spelled.parse_eq
  · intro command other line spelled again
    have same := spelled.parse_eq.symm.trans again.parse_eq
    exact Except.ok.inj same

/-- Marks and dividers inside the names, ideographic blanks between the words and around the mode, and
the least numbers. -/
theorem parse_spelled_of_marks_in_names :
    parse "VrComout=XSSC\u3000\tNAME=NAME=a=,  CHANGE=CHANGE=\u00e9" =
        .ok (.onSheets (.clone (.name "NAME=a=,") "CHANGE=\u00e9")) ∧
      parse "VrSetForm=NO=1.xml,\u3000-2147483648 " = .ok (.setForm "NO=1.xml" (-2147483648)) ∧
      parse "VrComout=XSSD NO=-9223372036854775808" =
        .ok (.onSheets (.delete (.number (-9223372036854775808)))) := by
  obtain ⟨plain, read, -, -⟩ := parse_spelled
  have gaps : Blank ['\u3000', '\t'] ∧ Blank [' ', ' '] := by decide
  have clone : Spelled (.onSheets (.clone (.name "NAME=a=,") "CHANGE=\u00e9"))
      (sheetsLine "XSSC\u3000\tNAME=NAME=a=,  CHANGE=CHANGE=\u00e9") :=
    .sheets (by decide)
      (.word _ gaps.1 (by decide) (.word _ gaps.2 (by decide) (.last _))) (padded_self _)
  have form : Spelled (.setForm (formFileName "NO=1.xml") (-2147483648))
      (formLine "NO=1.xml" "\u3000-2147483648 ") :=
    .form (by decide) (by decide) (by decide) (by decide) ⟨['\u3000'], [' '], by decide⟩
  have delete : SheetCommand.Writable (.delete (.number (-9223372036854775808))) := by decide
  exact ⟨read _ _ clone, read _ _ form, read _ _ (plain (.onSheets _) delete)⟩

end Command

end ReportSheets
