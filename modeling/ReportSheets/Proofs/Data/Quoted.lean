import ReportSheets.Data.Csv

namespace ReportSheets.Csv

def doubled : List Char → List Char
  | [] => []
  | c :: rest => if c = '"' then '"' :: '"' :: doubled rest else c :: doubled rest

def quoted (value : List Char) : List Char := '"' :: (doubled value ++ ['"'])

def recordLine (first : List Char) (more : List (List Char)) : List Char :=
  quoted first ++ more.flatMap fun value => ',' :: quoted value

theorem foldr_extendFirst (value field : List Char) (later : List (List Char)) :
    value.foldr extendFirst (field :: later) = (value ++ field) :: later := by
  induction value with
  | nil => rfl
  | cons c value ih => rw [List.foldr_cons, ih]; rfl

theorem doubled_quote (rest : List Char) : doubled ('"' :: rest) = '"' :: '"' :: doubled rest := rfl

theorem doubled_plain {c : Char} (plain : c ≠ '"') (rest : List Char) :
    doubled (c :: rest) = c :: doubled rest := if_neg plain

theorem fields_quoted_quote (rest : List Char) :
    fields .quoted ('"' :: rest) = fields .closing rest := rfl

theorem fields_quoted_plain {c : Char} (plain : c ≠ '"') (rest : List Char) :
    fields .quoted (c :: rest) = extendFirst c (fields .quoted rest) := if_neg plain

theorem fields_closing_quote (rest : List Char) :
    fields .closing ('"' :: rest) = extendFirst '"' (fields .quoted rest) := rfl

theorem fields_closing_comma (rest : List Char) :
    fields .closing (',' :: rest) = [] :: fields .start rest := rfl

theorem fields_start_quote (rest : List Char) :
    fields .start ('"' :: rest) = fields .quoted rest := rfl

theorem fields_quoted_doubled (value rest : List Char) :
    fields .quoted (doubled value ++ '"' :: rest) =
      value.foldr extendFirst (fields .closing rest) := by
  induction value with
  | nil => rfl
  | cons c value ih =>
    by_cases quote : c = '"'
    · subst quote
      rw [doubled_quote, List.cons_append, List.cons_append, fields_quoted_quote,
        fields_closing_quote, ih, List.foldr_cons]
    · rw [doubled_plain quote, List.cons_append, fields_quoted_plain quote, ih, List.foldr_cons]

theorem fields_closing_more (more : List (List Char)) :
    fields .closing (more.flatMap fun value => ',' :: quoted value) = [] :: more := by
  induction more with
  | nil => rfl
  | cons value more ih =>
    have line : (value :: more).flatMap (fun value => ',' :: quoted value) =
        ',' :: '"' :: (doubled value ++ '"' :: more.flatMap fun value => ',' :: quoted value) := by
      simp [quoted]
    rw [line, fields_closing_comma, fields_start_quote, fields_quoted_doubled, ih,
      foldr_extendFirst, List.append_nil]

theorem record?_recordLine (first : List Char) (more : List (List Char)) :
    record? (recordLine first more) = some (first :: more) := by
  have line : recordLine first more =
      '"' :: (doubled first ++ '"' :: more.flatMap fun value => ',' :: quoted value) := by
    simp [recordLine, quoted]
  have begun : ∀ rest, record? ('"' :: rest) = some (fields .quoted rest) := by
    intro rest
    simp [record?, dropMark, byteOrderMark, isTerminator, fields_start_quote]
  rw [line, begun, fields_quoted_doubled, fields_closing_more, foldr_extendFirst, List.append_nil]

end ReportSheets.Csv
