import ReportSheets.Proofs.Text.Blank
import ReportSheets.Xml.Token

namespace ReportSheets.Xml

variable {stop lead content part more raw rest : List Char} {last quote : Char}

theorem absent_of_not_mem (c : Char) (inStop : c ∈ stop) (missing : c ∉ content) :
    ¬ stop <:+: content := fun inside => missing (inside.subset inStop)

theorem not_prefix_of_absent (ends : stop = lead ++ [last]) (once : last ∉ lead)
    (absent : ¬ stop <:+: content) (some : content ≠ []) (rest : List Char) :
    ¬ stop <+: content ++ (stop ++ rest) := by
  rintro ⟨after, same⟩
  rcases List.append_eq_append_iff.mp same with ⟨overlap, split, -⟩ | ⟨beyond, split, overlaps⟩
  · exact absent ⟨[], overlap, by simp [split]⟩
  -- The stop would have to begin again before its end, and so contain its last character twice.
  have visible : beyond ≠ [] := by
    rintro rfl
    rw [List.append_nil] at split
    exact absent (split ▸ List.infix_rfl)
  have shorter : beyond.length ≤ lead.length := by
    have whole := congrArg List.length (ends.symm.trans split)
    have positive := List.length_pos_iff.mpr some
    simp only [List.length_append, List.length_singleton] at whole
    omega
  have inLead : beyond <+: lead := by
    have first : beyond <+: stop ++ rest := ⟨after, overlaps.symm⟩
    have second : lead <+: stop ++ rest := by
      rw [ends, List.append_assoc]
      exact List.prefix_append _ _
    exact List.prefix_of_prefix_length_le first second shorter
  have atEnd : beyond.getLast? = .some last := by
    have whole := congrArg List.getLast? (split.symm.trans ends)
    rw [List.getLast?_append, List.getLast?_concat, List.getLast?_eq_some_getLast visible,
      Option.some_or] at whole
    rw [List.getLast?_eq_some_getLast visible, whole]
  exact once (inLead.subset (List.mem_of_getLast? atEnd))

/-- A stop whose last character comes only at its end is found first where it is written. -/
theorem cutAtAll_append (ends : stop = lead ++ [last]) (once : last ∉ lead)
    (absent : ¬ stop <:+: content) (rest : List Char) :
    cutAtAll stop (content ++ (stop ++ rest)) = some (content, rest) := by
  induction content with
  | nil =>
    have found := Text.after?_eq_some_iff.mpr (rfl : stop ++ rest = stop ++ rest)
    cases stop with
    | nil => simp at ends
    | cons c more =>
      rw [List.nil_append, List.cons_append] at *
      rw [cutAtAll, found]
  | cons c content ih =>
    have later := ih fun inside => absent (inside.trans (List.suffix_cons c content).isInfix)
    have missing : Text.after? stop (c :: content ++ (stop ++ rest)) = none := by
      rw [Option.eq_none_iff_forall_ne_some]
      intro after found
      exact not_prefix_of_absent ends once absent (List.cons_ne_nil _ _) rest
        ⟨after, (Text.after?_eq_some_iff.mp found).symm⟩
    rw [List.cons_append] at *
    rw [cutAtAll, missing, later]
    rfl

theorem markup?_comment (absent : ¬ "-->".toList <:+: content) (rest : List Char) :
    markup? ("!--".toList ++ (content ++ ("-->".toList ++ rest))) = some (.aside, rest) := by
  have ends : "-->".toList = "--".toList ++ ['>'] := rfl
  have begun : Text.after? "--".toList ("--".toList ++ (content ++ ("-->".toList ++ rest))) =
      some (content ++ ("-->".toList ++ rest)) := Text.after?_eq_some_iff.mpr rfl
  have cut := cutAtAll_append ends (by decide) absent rest
  show declaration? ("--".toList ++ _) = _
  rw [declaration?, begun]
  simp only [cut, Option.map_some]

theorem markup?_cdata (absent : ¬ "]]>".toList <:+: content) (rest : List Char) :
    markup? ("![CDATA[".toList ++ (content ++ ("]]>".toList ++ rest))) =
      some (.cdata content, rest) := by
  have ends : "]]>".toList = "]]".toList ++ ['>'] := rfl
  have noComment : Text.after? "--".toList
      ("[CDATA[".toList ++ (content ++ ("]]>".toList ++ rest))) = none := rfl
  have begun : Text.after? "[CDATA[".toList
      ("[CDATA[".toList ++ (content ++ ("]]>".toList ++ rest))) =
        some (content ++ ("]]>".toList ++ rest)) := Text.after?_eq_some_iff.mpr rfl
  have cut := cutAtAll_append ends (by decide) absent rest
  show declaration? ("[CDATA[".toList ++ _) = _
  rw [declaration?, noComment]
  simp only [begun, cut, Option.map_some]

theorem markup?_instruction (begins : content.head? ≠ some '>')
    (absent : ¬ "?>".toList <:+: content) (rest : List Char) :
    markup? ('?' :: (content ++ ("?>".toList ++ rest))) = some (.instruction content, rest) := by
  have ends : "?>".toList = ['?'] ++ ['>'] := rfl
  have cut := cutAtAll_append ends (by decide) absent rest
  have continues : (content ++ ("?>".toList ++ rest)).head? ≠ some '>' := by
    cases content with
    | nil => simp
    | cons c content => exact begins
  simp only [markup?, if_neg continues, cut, Option.map_some]

theorem tokensOf_markup {token : Token} {after : List Char}
    (found : markup? rest = some (token, after)) :
    tokensOf ('<' :: rest) = (token :: (tokensOf after).1, (tokensOf after).2) := by
  rw [tokensOf]
  split
  · rename_i none
    rw [none] at found
    cases found
  · rename_i other
    cases found.symm.trans other
    rfl

theorem tokensOf_text {c : Char} (plain : c ≠ '<') (rest : List Char) :
    tokensOf (c :: rest) = (.text (c :: rest.takeWhile (· != '<')) ::
      (tokensOf (rest.dropWhile (· != '<'))).1, (tokensOf (rest.dropWhile (· != '<'))).2) := by
  rw [tokensOf]
  exact plain

/-- Inside a tag the part stands outside of quotes, or is quoted as a whole. -/
def Passes (part : List Char) : Prop :=
  ∀ rest, tagContent none (part ++ rest) =
    (tagContent none rest).map fun (content, after) => (part ++ content, after)

namespace Passes

theorem append (passes : Passes part) (later : Passes more) : Passes (part ++ more) := by
  intro rest
  rw [List.append_assoc, passes, later, Option.map_map]
  cases tagContent none rest with
  | none => rfl
  | some cut => simp

theorem plain (each : ∀ c ∈ part, c ≠ '>' ∧ c ≠ '"' ∧ c ≠ '\'') : Passes part := by
  induction part with
  | nil =>
    intro rest
    simp
  | cons c part ih =>
    intro rest
    obtain ⟨notEnd, notDouble, notSingle⟩ := each c List.mem_cons_self
    have later := ih (fun d member => each d (List.mem_cons_of_mem c member)) rest
    rw [List.cons_append, tagContent]
    simp only [notEnd, notDouble, notSingle, and_false, or_self, if_false, later, Option.map_map]
    rfl

theorem tagContent_quoted (missing : quote ∉ raw) (rest : List Char) :
    tagContent (some quote) (raw ++ quote :: rest) =
      (tagContent none rest).map fun (content, after) => (raw ++ quote :: content, after) := by
  induction raw with
  | nil => simp [tagContent]
  | cons c raw ih =>
    rw [List.mem_cons, not_or] at missing
    rw [List.cons_append, tagContent]
    simp only [if_neg (Ne.symm missing.1), reduceCtorEq, false_and, if_false, ih missing.2,
      Option.map_map]
    rfl

theorem quoted (mark : quote = '"' ∨ quote = '\'') (missing : quote ∉ raw) :
    Passes (quote :: (raw ++ [quote])) := by
  intro rest
  have notEnd : quote ≠ '>' := by
    rcases mark with rfl | rfl <;> decide
  rw [List.cons_append, List.append_assoc, tagContent]
  simp only [mark, notEnd, and_false, if_true, if_false, List.singleton_append,
    tagContent_quoted missing, Option.map_map]
  congr 1
  funext cut
  simp

theorem tagContent (passes : Passes part) (rest : List Char) :
    tagContent none (part ++ '>' :: rest) = some (part, rest) := by
  rw [passes, Xml.tagContent]
  simp

end Passes

end ReportSheets.Xml
