import ReportSheets.Proofs.Text.Words
import ReportSheets.Proofs.Xml.Markup
import ReportSheets.Proofs.Xml.Reference
import ReportSheets.Xml.Element
import ReportSheets.Xml.Nesting

namespace ReportSheets.Xml

inductive LocalPart : List Char → List Char → Prop
  | bare {name : List Char} (whole : ':' ∉ name) : LocalPart name name
  | qualified {qualifier base : List Char} (whole : ':' ∉ qualifier) :
      LocalPart (qualifier ++ ':' :: base) base

structure ElementName where
  written : Name
  base : List Char
  isLocal : LocalPart written.text base

theorem LocalPart.localName_eq {name base : List Char} (isLocal : LocalPart name base) :
    localName name = base := by
  cases isLocal with
  | bare whole => rw [localName, Text.cutAt_unmarked whole]
  | qualified whole => rw [localName, Text.cutAt_append_mark whole]

def Spaces (text : List Char) : Prop := ∀ c ∈ text, isSpace c = true

inductive ShowsAttributes : List (Name × List Char) → List Char → Prop
  | nil {blanks : List Char} (spaces : Spaces blanks) : ShowsAttributes [] blanks
  | cons {name : Name} {value raw lead before after text : List Char} {quote : Char}
      {more : List (Name × List Char)} (apart : lead ≠ []) (leading : Spaces lead)
      (spacesBefore : Spaces before) (spacesAfter : Spaces after)
      (mark : quote = '"' ∨ quote = '\'') (quotes : Quotes quote value raw)
      (rest : ShowsAttributes more text) :
      ShowsAttributes ((name, value) :: more)
        (lead ++ (name.text ++ (before ++ '=' :: (after ++ quote :: (raw ++ quote :: text)))))

namespace Name

variable (name : Name)

theorem not_space : ∀ c ∈ name.text, isSpace c = false := by
  intro c member
  have kept := name.plain c member
  cases space : isSpace c with
  | false => rfl
  | true =>
    simp only [isSpace, Bool.or_eq_true, beq_iff_eq] at space
    rcases space with ((rfl | rfl) | rfl) | rfl <;> exact absurd (by decide) kept

theorem ne_of_mem {c d : Char} (member : c ∈ name.text) (ends : d ∈ nameEnds) : c ≠ d := by
  rintro rfl
  exact name.plain c member ends

theorem passes : Passes name.text := by
  apply Passes.plain
  intro c member
  exact ⟨name.ne_of_mem member (by decide), name.ne_of_mem member (by decide),
    name.ne_of_mem member (by decide)⟩

end Name

namespace Spaces

variable {blanks rest : List Char}

theorem ne_of_mem (spaces : Spaces blanks) {c d : Char} (member : c ∈ blanks)
    (other : isSpace d = false) : c ≠ d := by
  rintro rfl
  rw [spaces c member] at other
  cases other

theorem passes (spaces : Spaces blanks) : Passes blanks := by
  apply Passes.plain
  intro c member
  exact ⟨spaces.ne_of_mem member (by decide), spaces.ne_of_mem member (by decide),
    spaces.ne_of_mem member (by decide)⟩

theorem dropWhile_append (spaces : Spaces blanks) {c : Char} (other : isSpace c = false)
    (rest : List Char) : (blanks ++ c :: rest).dropWhile isSpace = c :: rest := by
  refine (Text.takeWhile_append_stop spaces ?_).2
  intro d first
  cases first
  exact other

end Spaces

theorem attribute?_append (name : Name) {before after raw : List Char} {quote : Char}
    (spacesBefore : Spaces before) (spacesAfter : Spaces after) (mark : quote = '"' ∨ quote = '\'')
    (missing : quote ∉ raw) (text : List Char) :
    attribute? (name.text ++ (before ++ '=' :: (after ++ quote :: (raw ++ quote :: text)))) =
      some (⟨name.text, raw⟩, text) := by
  have inName : ∀ c ∈ name.text, (c != '=' && !isSpace c) = true := by
    intro c member
    rw [name.not_space c member, bne_iff_ne.mpr (name.ne_of_mem member (by decide))]
    rfl
  have stops : ∀ c, (before ++ '=' :: (after ++ quote :: (raw ++ quote :: text))).head? = some c →
      (c != '=' && !isSpace c) = false := by
    intro c first
    cases before with
    | nil =>
      cases first
      rfl
    | cons d before =>
      cases first
      simp [spacesBefore c List.mem_cons_self]
  have noSpace : isSpace quote = false := by
    rcases mark with rfl | rfl <;> decide
  obtain ⟨c, more, split⟩ := List.exists_cons_of_ne_nil name.visible
  rw [split] at inName ⊢
  obtain ⟨taken, left⟩ := Text.takeWhile_append_stop
    (fun d member => inName d (List.mem_cons_of_mem c member)) stops
  rw [List.cons_append, attribute?]
  simp only [taken, left, spacesBefore.dropWhile_append (by decide : isSpace '=' = false),
    spacesAfter.dropWhile_append noSpace, if_pos mark, Text.cutAt_append_mark missing,
    Option.map_some]

variable {unique : Bool} {seen : List (List Char)} {text rest : List Char}

theorem attributesFrom_nil (spaces : Spaces text) : attributesFrom unique seen text = ([], false) := by
  rw [attributesFrom]
  split
  · rfl
  · rename_i c rest start
    have none := List.dropWhile_eq_nil_iff.mpr spaces
    rw [none] at start
    cases start

theorem attributesFrom_cons {a : Attribute} {c : Char}
    (start : text.dropWhile isSpace = c :: rest) {after : List Char}
    (read : attribute? (c :: rest) = some (a, after)) (fresh : a.name ∉ seen) :
    attributesFrom unique seen text =
      (a :: (attributesFrom unique (a.name :: seen) after).1,
        (attributesFrom unique (a.name :: seen) after).2) := by
  rw [attributesFrom]
  split
  · rename_i none
    rw [none] at start
    cases start
  · rename_i c' rest' start'
    cases start.symm.trans start'
    split
    · rename_i none
      rw [none] at read
      cases read
    · rename_i a' after' read'
      cases read.symm.trans read'
      rw [if_neg (fun again => fresh again.2)]

namespace ShowsAttributes

variable {attributes : List (Name × List Char)}

theorem passes (shows : ShowsAttributes attributes text) : Passes text := by
  induction shows with
  | nil spaces => exact spaces.passes
  | @cons name value raw lead before after text quote more apart leading spacesBefore spacesAfter mark
      quotes rest ih =>
    have equals : Passes ['='] := Passes.plain (by simp)
    have quoted := Passes.quoted mark (quotes.not_mem mark)
    have whole := leading.passes.append (name.passes.append (spacesBefore.passes.append
      (equals.append (spacesAfter.passes.append (quoted.append ih)))))
    simpa using whole

/-- A slash at the end of a tag is no part of its attributes. -/
theorem getLast?_ne_slash (shows : ShowsAttributes attributes text) : text.getLast? ≠ some '/' := by
  induction shows with
  | nil spaces =>
    intro last
    exact spaces.ne_of_mem (List.mem_of_getLast? last) (by decide) rfl
  | @cons name value raw lead before after text quote more apart leading spacesBefore spacesAfter mark
      quotes rest ih =>
    have last : (lead ++ (name.text ++ (before ++ '=' ::
        (after ++ quote :: (raw ++ quote :: text))))).getLast? = some (text.getLast?.getD quote) := by
      simp [List.getLast?_append, List.getLast?_cons]
    rw [last]
    cases ending : text.getLast? with
    | none => rcases mark with rfl | rfl <;> decide
    | some c =>
      rw [ending] at ih
      exact ih

theorem attributesFrom (shows : ShowsAttributes attributes text) (unique : Bool)
    (seen : List (List Char)) (distinct : (attributes.map (·.1.text)).Nodup)
    (fresh : ∀ given ∈ attributes, given.1.text ∉ seen) :
    ∃ raws, Xml.attributesFrom unique seen text = (raws, false) ∧
      List.Forall₂ (fun (raw : Attribute) (given : Name × List Char) => raw.name = given.1.text ∧
        unescape? raw.value = some given.2) raws attributes := by
  induction shows generalizing seen with
  | nil spaces => exact ⟨[], attributesFrom_nil spaces, .nil⟩
  | @cons name value raw lead before after text quote more apart leading spacesBefore spacesAfter mark
      quotes rest ih =>
    rw [List.map_cons, List.nodup_cons] at distinct
    have read := attribute?_append name spacesBefore spacesAfter mark (quotes.not_mem mark) text
    have later : ∀ given ∈ more, given.1.text ∉ name.text :: seen := by
      intro given member
      rw [List.mem_cons, not_or]
      refine ⟨?_, fresh given (List.mem_cons_of_mem _ member)⟩
      rintro same
      exact distinct.1 (List.mem_map.mpr ⟨given, member, same⟩)
    obtain ⟨raws, left, agree⟩ := ih (name.text :: seen) distinct.2 later
    obtain ⟨c, tail, split⟩ := List.exists_cons_of_ne_nil name.visible
    have noSpace := name.not_space c (split ▸ List.mem_cons_self)
    refine ⟨⟨name.text, raw⟩ :: raws, ?_, .cons ⟨rfl, quotes.unescape?⟩ agree⟩
    have new : name.text ∉ seen := fresh (name, value) List.mem_cons_self
    rw [split] at read new left ⊢
    rw [List.cons_append] at read ⊢
    rw [attributesFrom_cons (leading.dropWhile_append noSpace _) read new, left]

theorem isSpace_of_head? (shows : ShowsAttributes attributes text) :
    ∀ c, text.head? = some c → isSpace c = true := by
  intro c first
  cases shows with
  | nil spaces => exact spaces c (List.mem_of_mem_head? first)
  | @cons name value raw lead _ _ _ _ _ apart leading =>
    obtain ⟨d, more, split⟩ := List.exists_cons_of_ne_nil apart
    rw [split] at first
    cases first
    exact leading c (split ▸ List.mem_cons_self)

theorem tagName (shows : ShowsAttributes attributes text) (name : Name) :
    Xml.tagName (name.text ++ text) = name.text ∧ afterName (name.text ++ text) = text := by
  refine Text.takeWhile_append_stop ?_ ?_
  · intro c member
    rw [name.not_space c member]
    rfl
  · intro c first
    rw [shows.isSpace_of_head? c first]
    rfl

end ShowsAttributes

theorem showsAttributes_written (attributes : List (Name × List Char)) :
    ShowsAttributes attributes (writtenAttributes attributes) := by
  induction attributes with
  | nil => exact .nil (List.forall_mem_nil _)
  | cons given more ih =>
    have blank : Spaces [' '] := by simp [Spaces, isSpace]
    have none : Spaces [] := List.forall_mem_nil _
    have same : writtenAttributes (given :: more) = [' '] ++ (given.1.text ++ ([] ++ '=' ::
        ([] ++ '"' :: (escape given.2 ++ '"' :: writtenAttributes more)))) := by
      simp [writtenAttributes]
    rw [same]
    exact .cons (List.cons_ne_nil _ _) blank none none (.inl rfl) (.escape given.2) ih

namespace Name

variable (name : Name) {attributes : List (Name × List Char)}

theorem markup?_append (rest : List Char) : markup? (name.text ++ rest) =
    (tagContent none (name.text ++ rest)).map fun (content, after) =>
      if content.getLast? = some '/' then (.opening content.dropLast true, after)
      else (.opening content false, after) := by
  obtain ⟨c, more, split⟩ := List.exists_cons_of_ne_nil name.visible
  have first : c ∈ name.text := split ▸ List.mem_cons_self
  have noBang := name.ne_of_mem first (by decide : '!' ∈ nameEnds)
  have noQuestion := name.ne_of_mem first (by decide : '?' ∈ nameEnds)
  have noSlash := name.ne_of_mem first (by decide : '/' ∈ nameEnds)
  rw [split, List.cons_append]
  unfold markup?
  split
  · rename_i none; cases none
  · rename_i bang; cases bang; exact absurd rfl noBang
  · rename_i question; cases question; exact absurd rfl noQuestion
  · rename_i slash; cases slash; exact absurd rfl noSlash
  · rfl

theorem markup?_opening (shows : ShowsAttributes attributes text) (rest : List Char) :
    markup? (name.text ++ (text ++ '>' :: rest)) =
      some (.opening (name.text ++ text) false, rest) := by
  have unclosed : (name.text ++ text).getLast? ≠ some '/' := by
    rw [List.getLast?_append]
    cases ending : text.getLast? with
    | some c =>
      have other := shows.getLast?_ne_slash
      rw [ending] at other
      exact other
    | none =>
      intro last
      exact name.plain '/' (List.mem_of_getLast? last) (by decide)
  rw [markup?_append, ← List.append_assoc, (name.passes.append shows.passes).tagContent]
  simp only [Option.map_some, if_neg unclosed]

theorem markup?_closed (shows : ShowsAttributes attributes text) (rest : List Char) :
    markup? (name.text ++ (text ++ '/' :: '>' :: rest)) =
      some (.opening (name.text ++ text) true, rest) := by
  have slash : Passes ['/'] := Passes.plain (by simp)
  have passes := (name.passes.append shows.passes).append slash
  have same : name.text ++ (text ++ '/' :: '>' :: rest) =
      name.text ++ text ++ ['/'] ++ '>' :: rest := by simp
  rw [markup?_append, same, passes.tagContent]
  simp only [Option.map_some, List.getLast?_concat, if_true, List.dropLast_concat]

variable {blanks : List Char}

theorem markup?_closing (spaces : Spaces blanks) (rest : List Char) :
    markup? ('/' :: (name.text ++ (blanks ++ '>' :: rest))) =
      some (.closing (name.text ++ blanks), rest) := by
  have passes := name.passes.append spaces.passes
  rw [← List.append_assoc, markup?, passes.tagContent]
  rfl

theorem closingName_append (spaces : Spaces blanks) :
    closingName (name.text ++ blanks) = name.text := by
  have kept : ((name.text ++ blanks).reverse.dropWhile isSpace).reverse = name.text := by
    have ends : name.text.reverse ≠ [] := by simpa using name.visible
    obtain ⟨c, more, split⟩ := List.exists_cons_of_ne_nil ends
    have member : c ∈ name.text := List.mem_reverse.mp (split ▸ List.mem_cons_self)
    have blank : Spaces blanks.reverse := fun d inside => spaces d (List.mem_reverse.mp inside)
    rw [List.reverse_append, split, blank.dropWhile_append (name.not_space c member), ← split,
      List.reverse_reverse]
  rw [closingName, kept]
  exact if_neg name.visible

end Name

end ReportSheets.Xml
