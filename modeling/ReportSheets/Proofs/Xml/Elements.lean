import ReportSheets.Proofs.Xml.Tags
import ReportSheets.Xml.Element

namespace ReportSheets.Xml

variable {α : Type} {name : Name} {attributes : List (Name × List Char)} {text rest : List Char}

def ahead (items : List α) (found : List α × Bool) : List α × Bool := (items ++ found.1, found.2)

theorem ahead_append (items more : List α) (found : List α × Bool) :
    ahead (items ++ more) found = ahead items (ahead more found) := by
  simp only [ahead, List.append_assoc]

def Apart (attributes : List (Name × List Char)) : Prop := (attributes.map (·.1.text)).Nodup

instance (attributes : List (Name × List Char)) : Decidable (Apart attributes) :=
  inferInstanceAs (Decidable (List.Nodup _))

def rawAttributes (attributes : List (Name × List Char)) : List Attribute :=
  attributes.map fun given => ⟨given.1.text, escape given.2⟩

theorem attributesFrom_written {unique : Bool} {seen : List (List Char)} (apart : Apart attributes)
    (fresh : ∀ given ∈ attributes, given.1.text ∉ seen) :
    attributesFrom unique seen (writtenAttributes attributes) = (rawAttributes attributes, false) := by
  induction attributes generalizing seen with
  | nil => exact attributesFrom_nil (List.forall_mem_nil _)
  | cons given more ih =>
    obtain ⟨name, value⟩ := given
    rw [Apart, List.map_cons, List.nodup_cons] at apart
    have blank : Spaces [' '] := by simp [Spaces, isSpace]
    have none : Spaces [] := List.forall_mem_nil _
    have read := attribute?_append name none none (.inl rfl)
      ((Quotes.escape value).not_mem (.inl rfl)) (writtenAttributes more)
    have same : writtenAttributes ((name, value) :: more) = [' '] ++ (name.text ++ ([] ++ '=' ::
        ([] ++ '"' :: (escape value ++ '"' :: writtenAttributes more)))) := by
      simp [writtenAttributes]
    have later : ∀ given ∈ more, given.1.text ∉ name.text :: seen := by
      intro given member
      rw [List.mem_cons, not_or]
      refine ⟨?_, fresh given (List.mem_cons_of_mem _ member)⟩
      rintro same
      exact apart.1 (List.mem_map.mpr ⟨given, member, same⟩)
    obtain ⟨c, tail, split⟩ := List.exists_cons_of_ne_nil name.visible
    have noSpace := name.not_space c (split ▸ List.mem_cons_self)
    have new : name.text ∉ seen := fresh (name, value) List.mem_cons_self
    have left := ih apart.2 later
    rw [split, List.cons_append] at read same
    rw [split] at new left
    have start : (writtenAttributes ((name, value) :: more)).dropWhile isSpace =
        c :: (tail ++
          ([] ++ '=' :: ([] ++ '"' :: (escape value ++ '"' :: writtenAttributes more)))) := by
      rw [same]
      exact blank.dropWhile_append noSpace _
    rw [attributesFrom_cons start read new, left, ← split]
    rfl

namespace Name

theorem tagName_tag (name : Name) (attributes : List (Name × List Char)) :
    tagName (name.tag attributes) = name.text :=
  ((showsAttributes_written attributes).tagName name).1

theorem elementName_tag (name : Name) (attributes : List (Name × List Char)) :
    elementName (name.tag attributes) = localName name.text := by
  rw [elementName, tagName_tag]

theorem tagAttributes_tag (name : Name) (apart : Apart attributes) :
    tagAttributes (name.tag attributes) = (rawAttributes attributes, false) := by
  rw [tagAttributes, tag, ((showsAttributes_written attributes).tagName name).2]
  exact attributesFrom_written apart (by simp)

theorem attributeWhere_tag (name : Name) (apart : Apart attributes) (p : List Char → Bool) :
    attributeWhere p (name.tag attributes) =
      some ((attributes.find? fun given => p given.1.text).map fun given => escape given.2) := by
  have found : (rawAttributes attributes).find? (fun a => p a.name) =
      (attributes.find? fun given => p given.1.text).map fun given =>
        ⟨given.1.text, escape given.2⟩ := by
    rw [rawAttributes, List.find?_map]
    rfl
  rw [attributeWhere, tagAttributes_tag name apart]
  simp only [found]
  cases attributes.find? fun given => p given.1.text <;> rfl

theorem tokensOf_opening (rest : List Char) :
    tokensOf (name.opening attributes ++ rest) =
      ahead [.opening (name.tag attributes) false] (tokensOf rest) := by
  have found := name.markup?_opening (showsAttributes_written attributes) rest
  have split : name.opening attributes ++ rest =
      '<' :: (name.text ++ (writtenAttributes attributes ++ '>' :: rest)) := by
    simp [opening, tag]
  rw [split, tokensOf_markup found]
  rfl

theorem tokensOf_closed (rest : List Char) :
    tokensOf ('<' :: (name.tag attributes ++ ['/', '>']) ++ rest) =
      ahead [.opening (name.tag attributes) true] (tokensOf rest) := by
  have found := name.markup?_closed (showsAttributes_written attributes) rest
  have split : '<' :: (name.tag attributes ++ ['/', '>']) ++ rest =
      '<' :: (name.text ++ (writtenAttributes attributes ++ '/' :: '>' :: rest)) := by
    simp [tag]
  rw [split, tokensOf_markup found]
  rfl

theorem tokensOf_closing (rest : List Char) :
    tokensOf (name.closing ++ rest) = ahead [.closing name.text] (tokensOf rest) := by
  have found := name.markup?_closing (List.forall_mem_nil _ : Spaces []) rest
  have split : name.closing ++ rest = '<' :: '/' :: (name.text ++ ([] ++ '>' :: rest)) := by
    simp [closing]
  rw [split, tokensOf_markup found, List.append_nil]
  rfl

theorem closingName_text (name : Name) : closingName name.text = name.text := by
  have same := name.closingName_append (List.forall_mem_nil _ : Spaces [])
  rwa [List.append_nil] at same

end Name

theorem less_not_mem_escape (text : List Char) : '<' ∉ escape text := by
  intro member
  obtain ⟨c, -, inside⟩ := List.mem_flatMap.mp member
  revert inside
  split
  · decide
  split
  · decide
  split
  · decide
  split
  · decide
  · rename_i less _ _
    intro inside
    exact less (List.mem_singleton.mp inside).symm

theorem escape_eq_nil_iff : escape text = [] ↔ text = [] := by
  cases text with
  | nil => exact iff_of_true rfl rfl
  | cons c text =>
    refine iff_of_false ?_ (List.cons_ne_nil c text)
    intro none
    have inside := List.flatMap_eq_nil_iff.mp none c List.mem_cons_self
    revert inside
    split <;> [decide; (split <;> [decide; (split <;> [decide; (split <;> [decide; simp])])])]

def textTokens (text : List Char) : List Token :=
  if text = [] then [] else [.text (escape text)]

theorem tokensOf_escape (begins : rest.head? = some '<') :
    tokensOf (escape text ++ rest) = ahead (textTokens text) (tokensOf rest) := by
  obtain ⟨tail, rfl⟩ : ∃ tail, rest = '<' :: tail := by
    cases rest with
    | nil => cases begins
    | cons c tail =>
      cases begins
      exact ⟨tail, rfl⟩
  rw [textTokens]
  split
  · rename_i none
    rw [none]
    rfl
  · rename_i some
    obtain ⟨c, more, split⟩ := List.exists_cons_of_ne_nil fun none => some (escape_eq_nil_iff.1 none)
    have plain := less_not_mem_escape text
    rw [split, List.mem_cons, not_or] at plain
    have stops : ∀ d, ('<' :: tail).head? = .some d → (d != '<') = false := by
      intro d first
      cases first
      rfl
    obtain ⟨taken, left⟩ := Text.takeWhile_append_stop
      (fun d member => bne_iff_ne.mpr (by rintro rfl; exact plain.2 member)) stops
    rw [split, List.cons_append, tokensOf_text (Ne.symm plain.1), taken, left]
    rfl

variable {broken : Bool} {names : List (List Char)} {more : List Token}

theorem openingsOf_opening (content : List Char) :
    openingsOf broken names (.opening content false :: more) =
      ahead [content] (openingsOf broken (tagName content :: names) more) := rfl

theorem openingsOf_textTokens (text : List Char) :
    openingsOf broken names (textTokens text ++ more) = openingsOf broken names more := by
  rw [textTokens]
  split <;> rfl

theorem openingsOf_closing (name : Name) :
    openingsOf broken (name.text :: names) (.closing name.text :: more) =
      openingsOf broken names more := by
  rw [openingsOf, if_pos name.closingName_text]

namespace Element

mutual

def tokens : Element → List Token
  | closed name attributes => [.opening (name.tag attributes) true]
  | holding name attributes text =>
    .opening (name.tag attributes) false :: (textTokens text ++ [.closing name.text])
  | around name attributes children =>
    .opening (name.tag attributes) false :: (tokensAll children ++ [.closing name.text])

def tokensAll : List Element → List Token
  | [] => []
  | element :: more => element.tokens ++ tokensAll more

end

mutual

def openings : Element → List (List Char)
  | closed name attributes => [name.tag attributes]
  | holding name attributes _ => [name.tag attributes]
  | around name attributes children => name.tag attributes :: openingsAll children

def openingsAll : List Element → List (List Char)
  | [] => []
  | element :: more => element.openings ++ openingsAll more

end

mutual

theorem tokensOf_written (element : Element) (rest : List Char) :
    tokensOf (element.written ++ rest) = ahead element.tokens (tokensOf rest) := by
  match element with
  | closed name attributes => exact Name.tokensOf_closed rest
  | holding name attributes text =>
    have begins : (name.closing ++ rest).head? = some '<' := rfl
    rw [written, List.append_assoc, List.append_assoc, Name.tokensOf_opening,
      tokensOf_escape begins, Name.tokensOf_closing, ← ahead_append, ← ahead_append]
    rfl
  | around name attributes children =>
    rw [written, List.append_assoc, List.append_assoc, Name.tokensOf_opening,
      tokensOf_writtenAll children, Name.tokensOf_closing, ← ahead_append, ← ahead_append]
    rfl

theorem tokensOf_writtenAll (elements : List Element) (rest : List Char) :
    tokensOf (writtenAll elements ++ rest) = ahead (tokensAll elements) (tokensOf rest) := by
  match elements with
  | [] => rfl
  | element :: more =>
    rw [writtenAll, List.append_assoc, tokensOf_written element, tokensOf_writtenAll more,
      ← ahead_append]
    rfl

end

mutual

theorem openingsOf_tokens (element : Element) (names : List (List Char)) (rest : List Token) :
    openingsOf broken names (element.tokens ++ rest) =
      ahead element.openings (openingsOf broken names rest) := by
  match element with
  | closed name attributes => rfl
  | holding name attributes text =>
    rw [tokens, List.cons_append, List.append_assoc, openingsOf_opening, Name.tagName_tag,
      openingsOf_textTokens, List.singleton_append, openingsOf_closing]
    rfl
  | around name attributes children =>
    rw [tokens, List.cons_append, List.append_assoc, openingsOf_opening, Name.tagName_tag,
      openingsOf_tokensAll children, List.singleton_append, openingsOf_closing, ← ahead_append]
    rfl

theorem openingsOf_tokensAll (elements : List Element) (names : List (List Char))
    (rest : List Token) :
    openingsOf broken names (tokensAll elements ++ rest) =
      ahead (openingsAll elements) (openingsOf broken names rest) := by
  match elements with
  | [] => rfl
  | element :: more =>
    rw [tokensAll, List.append_assoc, openingsOf_tokens element, openingsOf_tokensAll more,
      ← ahead_append]
    rfl

end

theorem openingsAll_eq (elements : List Element) :
    openingsAll elements = elements.flatMap openings := by
  induction elements with
  | nil => rfl
  | cons element more ih => rw [openingsAll, ih, List.flatMap_cons]

theorem openingsAll_append (elements more : List Element) :
    openingsAll (elements ++ more) = openingsAll elements ++ openingsAll more := by
  rw [openingsAll_eq, List.flatMap_append, openingsAll_eq, openingsAll_eq]

theorem head?_written (element : Element) : element.written.head? = some '<' := by
  cases element <;> rfl

end Element

def declared : List Char := "xml version=\"1.0\" encoding=\"UTF-8\" standalone=\"yes\"".toList

theorem tokensOf_declaration (begins : rest.head? = some '<') :
    tokensOf (declaration ++ rest) =
      ahead [.instruction declared, .text ['\n']] (tokensOf rest) := by
  have absent : ¬ "?>".toList <:+: declared := absent_of_not_mem '?' (by decide) (by decide)
  have found := markup?_instruction (by decide) absent ('\n' :: rest)
  have split : declaration ++ rest = '<' :: ('?' :: (declared ++ ("?>".toList ++ '\n' :: rest))) := by
    rfl
  obtain ⟨tail, rfl⟩ : ∃ tail, rest = '<' :: tail := by
    cases rest with
    | nil => cases begins
    | cons c tail =>
      cases begins
      exact ⟨tail, rfl⟩
  rw [split, tokensOf_markup found, tokensOf_text (by decide)]
  rfl

theorem tokens_document (root : Element) :
    tokensOf (document root) = (.instruction declared :: .text ['\n'] :: root.tokens, false) := by
  have whole := root.tokensOf_written []
  rw [List.append_nil, tokensOf] at whole
  rw [document, tokensOf_declaration root.head?_written, whole, ahead, ahead, List.append_nil]
  rfl

theorem openings_document (root : Element) : openings (document root) = (root.openings, false) := by
  have tags : openingsOf false [] (root.tokens ++ []) = ahead root.openings (openingsOf false [] []) :=
    root.openingsOf_tokens [] []
  rw [List.append_nil, openingsOf] at tags
  have start : tokens (document root) = tokensOf (document root) := rfl
  rw [openings, start, tokens_document]
  simp only [openingsOf, tags, ahead, List.append_nil]

end ReportSheets.Xml
