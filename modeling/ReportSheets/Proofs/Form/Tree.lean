import ReportSheets.Form.Document
import ReportSheets.Proofs.Xml.Tags

namespace ReportSheets

inductive FormNode
  | element (name : Xml.ElementName) (attributes : List (Xml.Name × List Char))
      (distinct : name.base = Field.elementName → (attributes.map (·.1.text)).Nodup)
      (children : List FormNode)
  | text (content : List Char) (plain : '<' ∉ content)
  | comment (content : List Char) (absent : ¬ "-->".toList <:+: content)
  | cdata (content : List Char) (absent : ¬ "]]>".toList <:+: content)
  | instruction (content : List Char) (begins : content.head? ≠ some '>')
      (absent : ¬ "?>".toList <:+: content)

namespace FormNode

def valueOr (none : String) (attributes : List (Xml.Name × List Char)) (name : String) : String :=
  ((attributes.find? fun given => given.1.text = name.toList).map fun given =>
    String.ofList given.2).getD none

def own (name : Xml.ElementName) (attributes : List (Xml.Name × List Char)) : List Field :=
  if name.base = Field.elementName then
    [⟨valueOr "" attributes "name", valueOr "" attributes "strComment",
      valueOr "" attributes "strEditFormula"⟩]
  else []

mutual

def fields : FormNode → List Field
  | element name attributes _ children => own name attributes ++ fieldsOf children
  | text .. | comment .. | cdata .. | instruction .. => []

def fieldsOf : List FormNode → List Field
  | [] => []
  | node :: more => node.fields ++ fieldsOf more

end

/-- Nodes in sequence and a way to write them. -/
inductive Shows : List FormNode → List Char → Prop
  | nil : Shows [] []
  | closed {name : Xml.ElementName} {attributes : List (Xml.Name × List Char)} {distinct}
      {inTag rest : List Char} {more : List FormNode}
      (tag : Xml.ShowsAttributes attributes inTag) (later : Shows more rest) :
      Shows (element name attributes distinct [] :: more)
        ('<' :: (name.written.text ++ (inTag ++ '/' :: '>' :: rest)))
  | nested {name : Xml.ElementName} {attributes : List (Xml.Name × List Char)} {distinct}
      {inTag inside blanks rest : List Char} {children more : List FormNode}
      (tag : Xml.ShowsAttributes attributes inTag) (inner : Shows children inside)
      (spaces : Xml.Spaces blanks) (later : Shows more rest) :
      Shows (element name attributes distinct children :: more)
        ('<' :: (name.written.text ++ (inTag ++ '>' :: (inside ++
          '<' :: '/' :: (name.written.text ++ (blanks ++ '>' :: rest))))))
  | text {content rest : List Char} {plain} {more : List FormNode} (later : Shows more rest) :
      Shows (text content plain :: more) (content ++ rest)
  | comment {content rest : List Char} {absent} {more : List FormNode} (later : Shows more rest) :
      Shows (comment content absent :: more)
        ('<' :: ("!--".toList ++ (content ++ ("-->".toList ++ rest))))
  | cdata {content rest : List Char} {absent} {more : List FormNode} (later : Shows more rest) :
      Shows (cdata content absent :: more)
        ('<' :: ("![CDATA[".toList ++ (content ++ ("]]>".toList ++ rest))))
  | instruction {content rest : List Char} {begins absent} {more : List FormNode}
      (later : Shows more rest) :
      Shows (instruction content begins absent :: more)
        ('<' :: '?' :: (content ++ ("?>".toList ++ rest)))

mutual

def written : FormNode → List Char
  | element name attributes _ [] =>
    '<' :: (name.written.text ++ (Xml.writtenAttributes attributes ++ "/>".toList))
  | element name attributes _ (child :: more) =>
    '<' :: (name.written.text ++ (Xml.writtenAttributes attributes ++ '>' ::
      (child.written ++ writtenAll more ++ '<' :: '/' :: (name.written.text ++ ['>']))))
  | text content _ => content
  | comment content _ => '<' :: ("!--".toList ++ (content ++ "-->".toList))
  | cdata content _ => '<' :: ("![CDATA[".toList ++ (content ++ "]]>".toList))
  | instruction content _ _ => '<' :: '?' :: (content ++ "?>".toList)

def writtenAll : List FormNode → List Char
  | [] => []
  | node :: more => node.written ++ writtenAll more

end

theorem valueOr_cons (none : String) (given : Xml.Name × List Char)
    (more : List (Xml.Name × List Char)) (name : String) :
    valueOr none (given :: more) name =
      if given.1.text = name.toList then String.ofList given.2 else valueOr none more name := by
  rw [valueOr, List.find?_cons]
  by_cases same : given.1.text = name.toList
  · simp [same]
  · simp [same, valueOr]

theorem valueOr_step {given : Xml.Name × List Char} {more : List (Xml.Name × List Char)}
    (fresh : given.1.text ∉ more.map (·.1.text)) {none : String} {name : String} :
    valueOr (if given.1.text = name.toList then String.ofList given.2 else none) more name =
      valueOr none (given :: more) name := by
  rw [valueOr_cons]
  split
  · rename_i same
    have missing : more.find? (fun other => other.1.text = name.toList) = .none := by
      rw [List.find?_eq_none]
      intro other member again
      rw [decide_eq_true_eq] at again
      exact fresh (List.mem_map.mpr ⟨other, member, again.trans same.symm⟩)
    rw [valueOr, missing]
    rfl
  · rfl

end FormNode

namespace Field

def ofOpenings (opened : List (List Char) × Bool) : Except Error (List Field) :=
  (ofTags opened.1).bind fun fields => if opened.2 then .error .malformedForm else .ok fields

def readFrom (names : List (List Char)) (text : List Char) : Except Error (List Field) :=
  ofOpenings (Xml.openingsOf (Xml.tokensOf text).2 names (Xml.tokensOf text).1)

variable {names : List (List Char)} {rest after content : List Char} {own : List Field}

theorem readAll_eq (document : String) :
    readAll document = ofOpenings (Xml.openings document.toList) := by
  rw [readAll]
  rcases Xml.openings document.toList with ⟨tags, broken⟩
  simp only [ofOpenings]
  cases ofTags tags <;> cases broken <;> rfl

theorem readAll_ofList (text : List Char) : readAll (String.ofList text) =
    readFrom [] (if text.head? = some Xml.byteOrderMark then text.tail else text) := by
  have tokens : Xml.tokens text =
      Xml.tokensOf (if text.head? = some Xml.byteOrderMark then text.tail else text) := by
    cases text with
    | nil =>
      rw [Xml.tokens, List.head?_nil, if_neg (by simp), Xml.tokensOf]
    | cons c rest =>
      rw [Xml.tokens, List.head?_cons]
      by_cases mark : c = Xml.byteOrderMark <;> simp [mark]
  rw [readAll_eq, readFrom, String.toList_ofList, Xml.openings, tokens]

theorem readFrom_nil : readFrom names [] = .ok [] := by
  rw [readFrom, Xml.tokensOf]
  rfl

theorem readFrom_text (text : List Char) :
    readFrom names text = readFrom names (text.dropWhile (· != '<')) := by
  cases text with
  | nil => rfl
  | cons c rest =>
    by_cases plain : c = '<'
    · rw [plain, List.dropWhile_cons_of_neg (by simp)]
    · rw [readFrom, Xml.tokensOf_text plain, List.dropWhile_cons_of_pos (by simp [plain])]
      rfl

theorem readFrom_append_text (plain : '<' ∉ content) (rest : List Char) :
    readFrom names (content ++ rest) = readFrom names rest := by
  rw [readFrom_text, readFrom_text rest, List.dropWhile_append_of_pos]
  intro c member
  rw [bne_iff_ne]
  rintro rfl
  exact plain member

theorem readFrom_aside {token : Xml.Token} (found : Xml.markup? rest = some (token, after))
    (noOpening : ∀ content closed, token ≠ .opening content closed)
    (noClosing : ∀ content, token ≠ .closing content) :
    readFrom names ('<' :: rest) = readFrom names after := by
  rw [readFrom, Xml.tokensOf_markup found]
  cases token with
  | opening content closed => exact absurd rfl (noOpening content closed)
  | closing content => exact absurd rfl (noClosing content)
  | _ => rfl

theorem ofTags_cons (content : List Char) (more : List (List Char)) :
    ofTags (content :: more) =
      (ofTags [content]).bind fun own => (ofTags more).map (own ++ ·) := by
  simp only [ofTags]
  split
  · cases ofTag content <;> cases ofTags more <;> rfl
  · cases ofTags more <;> rfl

theorem ofOpenings_cons (declared : ofTags [content] = .ok own)
    (opened : List (List Char) × Bool) :
    ofOpenings (content :: opened.1, opened.2) = (ofOpenings opened).map (own ++ ·) := by
  obtain ⟨tags, broken⟩ := opened
  simp only [ofOpenings]
  rw [ofTags_cons, declared]
  cases ofTags tags <;> cases broken <;> rfl

theorem readFrom_opening {closed : Bool}
    (found : Xml.markup? rest = some (.opening content closed, after))
    (declared : ofTags [content] = .ok own) :
    readFrom names ('<' :: rest) =
      (readFrom (if closed then names else Xml.tagName content :: names) after).map (own ++ ·) := by
  rw [readFrom, Xml.tokensOf_markup found]
  exact ofOpenings_cons declared _

theorem readFrom_closing {name : List Char}
    (found : Xml.markup? rest = some (.closing content, after))
    (closes : Xml.closingName content = name) :
    readFrom (name :: names) ('<' :: rest) = readFrom names after := by
  rw [readFrom, Xml.tokensOf_markup found]
  simp only [Xml.openingsOf, closes, if_true]
  rfl

variable {attributes : List (Xml.Name × List Char)} {inTag : List Char}

theorem withAttribute_eq (field : Field) (name value : List Char) :
    field.withAttribute name value =
      ⟨if name = "name".toList then String.ofList value else field.name,
        if name = "strComment".toList then String.ofList value else field.location,
        if name = "strEditFormula".toList then String.ofList value else field.formula⟩ := by
  unfold withAttribute
  split
  · rename_i same
    subst same
    rfl
  split
  · rename_i same
    subst same
    rfl
  split <;> rfl

theorem ofAttributes_of_read {raws : List Xml.Attribute} (field : Field)
    (agree : List.Forall₂ (fun (raw : Xml.Attribute) (given : Xml.Name × List Char) =>
      raw.name = given.1.text ∧ Xml.unescape? raw.value = some given.2) raws attributes)
    (distinct : (attributes.map (·.1.text)).Nodup) :
    ofAttributes field raws = .ok
      ⟨FormNode.valueOr field.name attributes "name",
        FormNode.valueOr field.location attributes "strComment",
        FormNode.valueOr field.formula attributes "strEditFormula"⟩ := by
  induction agree generalizing field with
  | nil => rfl
  | @cons raw given raws more read agree ih =>
    obtain ⟨named, unescaped⟩ := read
    rw [List.map_cons, List.nodup_cons] at distinct
    rw [ofAttributes, unescaped]
    simp only [ih _ distinct.2, named, withAttribute_eq, FormNode.valueOr_step distinct.1]

theorem ofTags_of_shows (name : Xml.ElementName)
    (distinct : name.base = elementName → (attributes.map (·.1.text)).Nodup)
    (tag : Xml.ShowsAttributes attributes inTag) :
    ofTags [name.written.text ++ inTag] = .ok (FormNode.own name attributes) := by
  obtain ⟨tagName, afterName⟩ := tag.tagName name.written
  have unqualified : Xml.elementName (name.written.text ++ inTag) = name.base := by
    rw [Xml.elementName, tagName, name.isLocal.localName_eq]
  simp only [ofTags, unqualified, FormNode.own]
  split
  · rename_i declares
    obtain ⟨raws, read, agree⟩ := tag.attributesFrom true [] (distinct declares) (by simp)
    rw [ofTag, Xml.tagAttributes, afterName, read]
    simp only [ofAttributes_of_read {} agree (distinct declares)]
    rfl
  · rfl

theorem readFrom_append {nodes : List FormNode} {text : List Char}
    (shows : FormNode.Shows nodes text) (names : List (List Char)) (rest : List Char) :
    readFrom names (text ++ rest) = (readFrom names rest).map (FormNode.fieldsOf nodes ++ ·) := by
  induction shows generalizing names rest with
  | nil =>
    rw [List.nil_append]
    cases readFrom names rest <;> rfl
  | @closed name attributes distinct inTag text more tag later ih =>
    have found := name.written.markup?_closed tag (text ++ rest)
    simp only [List.cons_append, List.append_assoc]
    rw [readFrom_opening found (ofTags_of_shows name distinct tag), if_pos rfl, ih]
    cases readFrom names rest with
    | error e => rfl
    | ok fields => simp [Except.map, FormNode.fieldsOf, FormNode.fields]
  | @nested name attributes distinct inTag inside blanks text children more tag inner spaces later
      ihInner ih =>
    have opened := name.written.markup?_opening tag
      (inside ++ '<' :: '/' :: (name.written.text ++ (blanks ++ '>' :: (text ++ rest))))
    have closed := name.written.markup?_closing spaces (text ++ rest)
    have closes := name.written.closingName_append spaces
    obtain ⟨tagName, -⟩ := tag.tagName name.written
    simp only [List.cons_append, List.append_assoc]
    -- Inside the element its own name is innermost, as the closing tag needs it.
    rw [readFrom_opening opened (ofTags_of_shows name distinct tag), if_neg Bool.false_ne_true,
      tagName, ihInner, readFrom_closing closed closes, ih]
    cases readFrom names rest with
    | error e => rfl
    | ok fields => simp [Except.map, FormNode.fieldsOf, FormNode.fields]
  | @text content text plain more later ih =>
    rw [List.append_assoc, readFrom_append_text plain, ih]
    rfl
  | @comment content text absent more later ih =>
    have found := Xml.markup?_comment absent (text ++ rest)
    simp only [List.cons_append, List.append_assoc]
    rw [readFrom_aside found nofun nofun, ih]
    rfl
  | @cdata content text absent more later ih =>
    have found := Xml.markup?_cdata absent (text ++ rest)
    simp only [List.cons_append, List.append_assoc]
    rw [readFrom_aside found nofun nofun, ih]
    rfl
  | @instruction content text begins absent more later ih =>
    have found := Xml.markup?_instruction begins absent (text ++ rest)
    simp only [List.cons_append, List.append_assoc]
    rw [readFrom_aside found nofun nofun, ih]
    rfl

end Field

namespace FormNode

mutual

theorem shows_written (node : FormNode) {more : List FormNode} {rest : List Char}
    (later : Shows more rest) : Shows (node :: more) (node.written ++ rest) := by
  match node with
  | element name attributes distinct [] =>
    have shows : Shows (element name attributes distinct [] :: more) _ :=
      .closed (Xml.showsAttributes_written attributes) later
    simpa [written] using shows
  | element name attributes distinct (child :: others) =>
    have inner := child.shows_written (shows_writtenAll others)
    have shows : Shows (element name attributes distinct (child :: others) :: more) _ :=
      .nested (Xml.showsAttributes_written attributes) inner (List.forall_mem_nil _) later
    simpa [written] using shows
  | text content plain => exact .text later
  | comment content absent =>
    have shows : Shows (comment content absent :: more) _ := .comment later
    simpa [written] using shows
  | cdata content absent =>
    have shows : Shows (cdata content absent :: more) _ := .cdata later
    simpa [written] using shows
  | instruction content begins absent =>
    have shows : Shows (instruction content begins absent :: more) _ := .instruction later
    simpa [written] using shows

theorem shows_writtenAll (nodes : List FormNode) : Shows nodes (writtenAll nodes) := by
  match nodes with
  | [] => exact .nil
  | node :: more => exact node.shows_written (shows_writtenAll more)

end

end FormNode

namespace Field

theorem readFrom_of_shows {nodes : List FormNode} {text : List Char}
    (shows : FormNode.Shows nodes text) : readFrom [] text = .ok (FormNode.fieldsOf nodes) := by
  have whole := readFrom_append shows [] []
  rw [List.append_nil, readFrom_nil] at whole
  simpa [Except.map] using whole

/-- A mark before the document, or as its first character, does not count. -/
theorem readAll_ofList_eq (text : List Char) : readAll (String.ofList text) = readFrom [] text := by
  rw [readAll_ofList]
  split
  · rename_i first
    cases text with
    | nil => rfl
    | cons c rest =>
      cases first
      have mark : '<' ∉ [Xml.byteOrderMark] := by decide
      exact (readFrom_append_text mark rest).symm
  · rfl

/-- However a form definition writes its elements, blanks, quotes and references, and whatever stands
between its elements, its fields are those that its elements declare. -/
theorem readAll_of_tree (nodes : List FormNode) :
    (∀ text, FormNode.Shows nodes text →
      readAll (String.ofList text) = .ok (FormNode.fieldsOf nodes)) ∧
    FormNode.Shows nodes (FormNode.writtenAll nodes) := by
  refine ⟨?_, FormNode.shows_writtenAll nodes⟩
  intro text shows
  rw [readAll_ofList_eq, readFrom_of_shows shows]

end Field

namespace FormNode

def nestedFields : List FormNode :=
  let field : Xml.ElementName :=
    ⟨.ofText "Field" rfl, "Field".toList, .bare (by decide)⟩
  let qualifiedField : Xml.ElementName :=
    ⟨.ofText "b:Field" rfl, "Field".toList,
      .qualified (by decide : ':' ∉ ['b'])⟩
  let form : Xml.ElementName :=
    ⟨.ofText "a:Form" rfl, "Form".toList, .qualified (by decide : ':' ∉ ['a'])⟩
  let inner : FormNode := .element qualifiedField
    [(.ofText "strComment" rfl, ['A', '1'])] (by decide) []
  let outer : FormNode := .element field
    [(Xml.titleName, ['n']),
      (.ofText "strEditFormula" rfl, ['"', '>', '"'])] (by decide) [inner]
  [.instruction "xml version='1.0'".toList (by decide)
      (Xml.absent_of_not_mem '?' (by decide) (by decide)),
    .element form [] (by decide)
      [.comment "<Field name='x'/>".toList (Xml.absent_of_not_mem '-' (by decide) (by decide)), outer,
        .text " & ".toList (by decide),
        .cdata "<Field/>".toList (Xml.absent_of_not_mem ']' (by decide) (by decide))]]

def nestedText : List Char :=
  "<?xml version='1.0'?><a:Form><!--<Field name='x'/>--><Field name = 'n' ".toList ++
    "strEditFormula=\"&#x22;>&quot;\"><b:Field strComment='A1' /></Field\n> & ".toList ++
    "<![CDATA[<Field/>]]></a:Form>".toList

theorem shows_nestedText : Shows nestedFields nestedText := by
  have none : Xml.Spaces [] := List.forall_mem_nil _
  have blank : Xml.Spaces [' '] := by simp [Xml.Spaces, Xml.isSpace]
  have newline : Xml.Spaces ['\n'] := by simp [Xml.Spaces, Xml.isSpace]
  have apart : [' '] ≠ [] := List.cons_ne_nil _ _
  have title : Xml.Quotes '\'' ['n'] ['n'] := .bare (by decide) (by decide) .nil
  have place : Xml.Quotes '\'' ['A', '1'] ['A', '1'] :=
    .bare (by decide) (by decide) (.bare (by decide) (by decide) .nil)
  have two : Xml.Numeral 16 ['2'] 2 := .digit (by decide) (.inl rfl)
  have number : Xml.Numeral 16 (['2'] ++ ['2']) (16 * 2 + 2) := .more two (by decide) (.inl rfl)
  have named : Xml.Names '"' ('#' :: 'x' :: (['2'] ++ ['2'])) := .hexadecimal number (by decide)
  have formula : Xml.Quotes '"' ['"', '>', '"'] _ :=
    .reference named (.bare (by decide) (by decide) (.reference .quote .nil))
  obtain ⟨text, shows, same⟩ : ∃ text, Shows nestedFields text ∧ text = nestedText := by
    refine ⟨_, .instruction (.nested (.nil none) (.comment (.nested
      (.cons apart blank blank blank (.inr rfl) title
        (.cons apart blank none none (.inl rfl) formula (.nil none)))
      (.closed (.cons apart blank none none (.inr rfl) place (.nil blank)) .nil) newline
      (.text (.cdata .nil)))) none .nil), ?_⟩
    decide +kernel
  rw [← same]
  exact shows

end FormNode

theorem Field.readAll_of_tree_of_nested :
    readAll (String.ofList FormNode.nestedText) = .ok [⟨"n", "", "\">\""⟩, ⟨"", "A1", ""⟩] := by
  rw [(readAll_of_tree FormNode.nestedFields).1 _ FormNode.shows_nestedText]
  decide

end ReportSheets
