import ReportSheets.Text.Blank

namespace ReportSheets.Xml

def isSpace (c : Char) : Bool := c == ' ' || c == '\t' || c == '\r' || c == '\n'

inductive Token
  | opening (content : List Char) (closed : Bool)
  | closing (content : List Char)
  | text (content : List Char)
  | cdata (content : List Char)
  | instruction (content : List Char)
  /-- A comment or a document type. -/
  | aside
deriving DecidableEq

def cutAtAll (stop : List Char) : List Char → Option (List Char × List Char)
  | [] => if stop = [] then some ([], []) else none
  | c :: rest =>
    match Text.after? stop (c :: rest) with
    | some after => some ([], after)
    | none => (cutAtAll stop rest).map fun (before, after) => (c :: before, after)

def tagContent (quote : Option Char) : List Char → Option (List Char × List Char)
  | [] => none
  | c :: rest =>
    let next := match quote with
      | some q => if c = q then none else some q
      | none => if c = '"' ∨ c = '\'' then some c else none
    if quote = none ∧ c = '>' then some ([], rest)
    else (tagContent next rest).map fun (content, after) => (c :: content, after)

/-- What follows a document type, whose brackets have to balance, and its content. -/
def documentType (depth : Nat) : List Char → Option (List Char × List Char)
  | [] => none
  | c :: rest =>
    if c = '>' then
      match depth with
      | 0 => some ([], rest)
      | outer + 1 => (documentType outer rest).map fun (content, after) => (c :: content, after)
    else
      (documentType (if c = '<' then depth + 1 else depth) rest).map
        fun (content, after) => (c :: content, after)

def afterWord? (word text : List Char) : Option (List Char) :=
  if (text.take word.length).map Char.toUpper = word then some (text.drop word.length) else none

def declaration? (rest : List Char) : Option (Token × List Char) :=
  match Text.after? "--".toList rest with
  | some rest => (cutAtAll "-->".toList rest).map fun (_, rest) => (.aside, rest)
  | none =>
    match Text.after? "[CDATA[".toList rest with
    | some rest => (cutAtAll "]]>".toList rest).map fun (content, rest) => (.cdata content, rest)
    | none =>
      (afterWord? "DOCTYPE".toList rest).bind fun rest =>
        (documentType 0 rest).bind fun (content, rest) =>
          if content.all isSpace then none else some (.aside, rest)

def markup? : List Char → Option (Token × List Char)
  | [] => none
  | '!' :: rest => declaration? rest
  | '?' :: rest =>
    if rest.head? = some '>' then none
    else (cutAtAll "?>".toList rest).map fun (content, rest) => (.instruction content, rest)
  | '/' :: rest => (tagContent none rest).map fun (content, rest) => (.closing content, rest)
  | rest =>
    (tagContent none rest).map fun (content, rest) =>
      if content.getLast? = some '/' then (.opening content.dropLast true, rest)
      else (.opening content false, rest)

theorem length_of_cutAtAll {stop text before after : List Char}
    (h : cutAtAll stop text = some (before, after)) : after.length ≤ text.length := by
  induction text generalizing before with
  | nil =>
    simp only [cutAtAll] at h
    split at h
    · simp only [Option.some.injEq, Prod.mk.injEq] at h
      simp [← h.2]
    · simp at h
  | cons c rest ih =>
    simp only [cutAtAll] at h
    split at h
    · rename_i found
      simp only [Option.some.injEq, Prod.mk.injEq] at h
      have := congrArg List.length (Text.after?_eq_some_iff.1 found)
      simp only [List.length_append] at this
      rw [← h.2]
      omega
    · obtain ⟨⟨b, a⟩, hb, he⟩ := Option.map_eq_some_iff.1 h
      simp only [Prod.mk.injEq] at he
      obtain ⟨-, rfl⟩ := he
      have := ih hb
      simp only [List.length_cons]
      omega

theorem length_of_tagContent {quote : Option Char} {text content after : List Char}
    (h : tagContent quote text = some (content, after)) : after.length ≤ text.length := by
  induction text generalizing quote content with
  | nil => simp [tagContent] at h
  | cons c rest ih =>
    simp only [tagContent] at h
    split at h
    · simp only [Option.some.injEq, Prod.mk.injEq] at h
      simp [← h.2]
    · obtain ⟨⟨b, a⟩, hb, he⟩ := Option.map_eq_some_iff.1 h
      simp only [Prod.mk.injEq] at he
      obtain ⟨-, rfl⟩ := he
      have := ih hb
      simp only [List.length_cons]
      omega

theorem length_of_documentType {depth : Nat} {text content after : List Char}
    (h : documentType depth text = some (content, after)) : after.length ≤ text.length := by
  induction text generalizing depth content with
  | nil => simp [documentType] at h
  | cons c rest ih =>
    have step : ∀ {d : Nat}, (documentType d rest).map
        (fun (content, after) => (c :: content, after)) = some (content, after) →
          after.length ≤ (c :: rest).length := by
      intro d hm
      obtain ⟨⟨b, a⟩, hb, he⟩ := Option.map_eq_some_iff.1 hm
      simp only [Prod.mk.injEq] at he
      obtain ⟨-, rfl⟩ := he
      have := ih hb
      simp only [List.length_cons]
      omega
    simp only [documentType] at h
    split at h
    · split at h
      · simp only [Option.some.injEq, Prod.mk.injEq] at h
        simp [← h.2]
      · exact step h
    · exact step h

theorem length_of_after? {lead text rest : List Char} (h : Text.after? lead text = some rest) :
    rest.length ≤ text.length := by
  have := congrArg List.length (Text.after?_eq_some_iff.1 h)
  simp only [List.length_append] at this
  omega

theorem length_of_afterWord? {word text rest : List Char} (h : afterWord? word text = some rest) :
    rest.length ≤ text.length := by
  simp only [afterWord?] at h
  split at h
  · simp only [Option.some.injEq] at h
    simp [← h]
  · simp at h

theorem length_of_declaration? {text rest : List Char} {token : Token}
    (h : declaration? text = some (token, rest)) : rest.length ≤ text.length := by
  simp only [declaration?] at h
  split at h
  · rename_i found
    obtain ⟨⟨b, a⟩, hb, he⟩ := Option.map_eq_some_iff.1 h
    simp only [Prod.mk.injEq] at he
    rw [← he.2]
    exact Nat.le_trans (length_of_cutAtAll hb) (length_of_after? found)
  · split at h
    · rename_i found
      obtain ⟨⟨b, a⟩, hb, he⟩ := Option.map_eq_some_iff.1 h
      simp only [Prod.mk.injEq] at he
      rw [← he.2]
      exact Nat.le_trans (length_of_cutAtAll hb) (length_of_after? found)
    · obtain ⟨more, found, h⟩ := Option.bind_eq_some_iff.1 h
      obtain ⟨⟨b, a⟩, hb, h⟩ := Option.bind_eq_some_iff.1 h
      split at h
      · simp at h
      · simp only [Option.some.injEq, Prod.mk.injEq] at h
        rw [← h.2]
        exact Nat.le_trans (length_of_documentType hb) (length_of_afterWord? found)

theorem length_of_markup? {text rest : List Char} {token : Token}
    (h : markup? text = some (token, rest)) : rest.length ≤ text.length := by
  unfold markup? at h
  split at h
  · simp at h
  · exact Nat.le_succ_of_le (length_of_declaration? h)
  · split at h
    · simp at h
    · obtain ⟨⟨b, a⟩, hb, he⟩ := Option.map_eq_some_iff.1 h
      simp only [Prod.mk.injEq] at he
      rw [← he.2]
      exact Nat.le_succ_of_le (length_of_cutAtAll hb)
  · obtain ⟨⟨b, a⟩, hb, he⟩ := Option.map_eq_some_iff.1 h
    simp only [Prod.mk.injEq] at he
    rw [← he.2]
    exact Nat.le_succ_of_le (length_of_tagContent hb)
  · obtain ⟨⟨b, a⟩, hb, he⟩ := Option.map_eq_some_iff.1 h
    have bound := length_of_tagContent hb
    dsimp only at he
    split at he
    · cases he
      exact bound
    · cases he
      exact bound

def tokensOf (text : List Char) : List Token × Bool :=
  match text with
  | [] => ([], false)
  | '<' :: rest =>
    match _next : markup? rest with
    | none => ([], true)
    | some (token, rest) =>
      let (tokens, broken) := tokensOf rest
      (token :: tokens, broken)
  | c :: rest =>
    let (tokens, broken) := tokensOf (rest.dropWhile (· != '<'))
    (.text (c :: rest.takeWhile (· != '<')) :: tokens, broken)
termination_by text.length
decreasing_by
  · exact Nat.lt_succ_of_le (length_of_markup? _next)
  · exact Nat.lt_succ_of_le (List.dropWhile_suffix _).length_le

def byteOrderMark : Char := '\ufeff'

def tokens (document : List Char) : List Token × Bool :=
  match document with
  | [] => ([], false)
  | c :: rest => if c = byteOrderMark then tokensOf rest else tokensOf (c :: rest)

end ReportSheets.Xml
