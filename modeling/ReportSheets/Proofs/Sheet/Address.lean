import ReportSheets.Proofs.Text.Digits
import ReportSheets.Proofs.Text.Words
import ReportSheets.Sheet.Address

namespace ReportSheets.CellAddress

variable {c : Char} {a : CellAddress} {letters digits text rest : List Char}

theorem isLetter_iff :
    isLetter c = true ↔ 65 ≤ c.toNat ∧ c.toNat ≤ 90 ∨ 97 ≤ c.toNat ∧ c.toNat ≤ 122 := by
  rw [isLetter, Bool.or_eq_true, Bool.and_eq_true, Bool.and_eq_true]
  simp only [decide_eq_true_eq]
  exact Iff.rfl

theorem isLetter_letter : ∀ n < 26, isLetter (letter n) = true := by decide

theorem letterValue_letter : ∀ n < 26, letterValue (letter n) = n + 1 := by decide

theorem exists_letter (isOne : isLetter c = true) :
    ∃ n < 26, c.toUpper = letter n ∧ letterValue c = n + 1 := by
  have capital : ∀ n < 26, (Char.ofNat (65 + n)).toUpper = letter n ∧
      letterValue (Char.ofNat (65 + n)) = n + 1 := by decide
  have small : ∀ n < 26, (Char.ofNat (97 + n)).toUpper = letter n ∧
      letterValue (Char.ofNat (97 + n)) = n + 1 := by decide
  rcases isLetter_iff.1 isOne with ⟨lower, upper⟩ | ⟨lower, upper⟩
  · have known := capital (c.toNat - 65) (by omega)
    rw [Nat.add_sub_cancel' lower, Char.ofNat_toNat] at known
    exact ⟨c.toNat - 65, by omega, known⟩
  · have known := small (c.toNat - 97) (by omega)
    rw [Nat.add_sub_cancel' lower, Char.ofNat_toNat] at known
    exact ⟨c.toNat - 97, by omega, known⟩

theorem letterValue_bounds (isOne : isLetter c = true) : 1 ≤ letterValue c ∧ letterValue c ≤ 26 := by
  obtain ⟨n, below, -, value⟩ := exists_letter isOne
  omega

theorem not_isLetter_of_isDigit (digit : Text.isDigit c = true) : isLetter c = false := by
  have bounds := Text.isDigit_iff.mp digit
  rw [Bool.eq_false_iff, ne_eq, isLetter_iff]
  omega

theorem columnNumber_concat (letters : List Char) (c : Char) :
    columnNumber (letters ++ [c]) = 26 * columnNumber letters + letterValue c := by
  rw [columnNumber, List.foldl_append]
  rfl

theorem columnNumber_bounds (each : ∀ c ∈ letters, isLetter c = true) :
    26 ^ letters.length ≤ 25 * columnNumber letters + 1 ∧
      25 * columnNumber letters + 26 ≤ 26 ^ (letters.length + 1) := by
  induction letters using List.reverseRecOn with
  | nil => decide
  | append_singleton letters c ih =>
    have front := ih fun d member => each d (List.mem_append_left [c] member)
    have last := letterValue_bounds (each c (by simp))
    rw [columnNumber_concat, List.length_append, List.length_singleton, Nat.pow_succ _ (_ + 1)]
    rw [Nat.pow_succ] at front ⊢
    omega

theorem columnNumber_le (each : ∀ c ∈ letters, isLetter c = true) (short : letters.length ≤ 3) :
    columnNumber letters ≤ 18278 := by
  have bound := (columnNumber_bounds each).2
  have power : 26 ^ (letters.length + 1) ≤ 26 ^ 4 := Nat.pow_le_pow_right (by decide) (by omega)
  omega

theorem columnNumber_pos (each : ∀ c ∈ letters, isLetter c = true) (some : letters ≠ []) :
    1 ≤ columnNumber letters := by
  have bound := (columnNumber_bounds each).1
  have power : 26 ^ 1 ≤ 26 ^ letters.length :=
    Nat.pow_le_pow_right (by decide) (List.length_pos_iff.mpr some)
  omega

theorem length_le_of_columnNumber (each : ∀ c ∈ letters, isLetter c = true)
    (inSheet : columnNumber letters ≤ maxCol + 1) : letters.length ≤ 3 := by
  have bound := (columnNumber_bounds each).1
  by_contra long
  have power : 26 ^ 4 ≤ 26 ^ letters.length := Nat.pow_le_pow_right (by decide) (by omega)
  rw [maxCol] at inSheet
  omega

theorem columnNumber_columnLetters (index : Nat) :
    columnNumber (columnLetters index) = index + 1 := by
  fun_induction columnLetters index with
  | case1 index small =>
    show 26 * 0 + letterValue (letter index) = index + 1
    rw [letterValue_letter index small, Nat.mul_zero, Nat.zero_add]
  | case2 index large ih =>
    have value := letterValue_letter (index % 26) (Nat.mod_lt _ (by decide))
    rw [columnNumber_concat, ih, value]
    omega

theorem columnLetters_columnNumber (each : ∀ c ∈ letters, isLetter c = true)
    (some : letters ≠ []) :
    columnLetters (columnNumber letters - 1) = letters.map Char.toUpper := by
  induction letters using List.reverseRecOn with
  | nil => exact absurd rfl some
  | append_singleton letters c ih =>
    obtain ⟨n, below, upper, value⟩ := exists_letter (each c (by simp))
    have eachFront : ∀ d ∈ letters, isLetter d = true := fun d member =>
      each d (List.mem_append_left [c] member)
    rw [columnNumber_concat, value, List.map_append, List.map_singleton, upper]
    by_cases empty : letters = []
    · subst empty
      have index : 26 * columnNumber [] + (n + 1) - 1 = n := by
        show 26 * 0 + (n + 1) - 1 = n
        omega
      rw [index, columnLetters, if_pos below]
      rfl
    · have front := columnNumber_pos eachFront empty
      have large : ¬ 26 * columnNumber letters + (n + 1) - 1 < 26 := by omega
      have leading : (26 * columnNumber letters + (n + 1) - 1) / 26 - 1 =
          columnNumber letters - 1 := by omega
      have last : (26 * columnNumber letters + (n + 1) - 1) % 26 = n := by omega
      rw [columnLetters, if_neg large, leading, last, ih eachFront empty]

theorem isLetter_of_mem_columnLetters (index : Nat) :
    ∀ c ∈ columnLetters index, isLetter c = true := by
  fun_induction columnLetters index with
  | case1 index small =>
    intro c member
    rw [List.mem_singleton.mp member]
    exact isLetter_letter index small
  | case2 index large ih =>
    intro c member
    rcases List.mem_append.mp member with front | last
    · exact ih c front
    · rw [List.mem_singleton.mp last]
      exact isLetter_letter _ (Nat.mod_lt _ (by decide))

theorem columnLetters_ne_nil (index : Nat) : columnLetters index ≠ [] := by
  intro empty
  have value := columnNumber_columnLetters index
  rw [empty] at value
  cases value

def Dollar (mark : List Char) : Prop := mark = [] ∨ mark = ['$']

/-- One to three letters and any count of digits, a dollar sign or none before each of the two. -/
structure Spelled (letters digits text : List Char) : Prop where
  eachLetter : ∀ c ∈ letters, isLetter c = true
  someLetter : letters ≠ []
  fewLetters : letters.length ≤ 3
  eachDigit : ∀ c ∈ digits, Text.isDigit c = true
  someDigit : digits ≠ []
  joined : ∃ first second, Dollar first ∧ Dollar second ∧
    text = first ++ letters ++ second ++ digits

theorem dropDollar_append {mark : List Char} (dollar : Dollar mark) (other : rest.head? ≠ some '$') :
    dropDollar (mark ++ rest) = rest := by
  rcases dollar with rfl | rfl
  · cases rest with
    | nil => rfl
    | cons c rest =>
      rw [List.nil_append, dropDollar]
      intro more same
      cases same
      exact other rfl
  · rfl

theorem exists_dropDollar (text : List Char) : ∃ mark, Dollar mark ∧ text = mark ++ dropDollar text := by
  unfold dropDollar
  split
  · exact ⟨['$'], .inr rfl, rfl⟩
  · exact ⟨[], .inl rfl, rfl⟩

def lettersOf (text : List Char) : List Char := (dropDollar text).takeWhile isLetter

def digitsOf (text : List Char) : List Char := dropDollar ((dropDollar text).dropWhile isLetter)

theorem Spelled.parts (spelled : Spelled letters digits text) :
    lettersOf text = letters ∧ digitsOf text = digits := by
  obtain ⟨first, second, dollarFirst, dollarSecond, whole⟩ := spelled.joined
  have digitsFirst : digits.head? ≠ some '$' := by
    intro same
    cases spelled.eachDigit _ (List.mem_of_head? same)
  have lettersFirst : (letters ++ (second ++ digits)).head? ≠ some '$' := by
    obtain ⟨c, more, begins⟩ := List.exists_cons_of_ne_nil spelled.someLetter
    have letter : isLetter c = true := spelled.eachLetter c (begins ▸ List.mem_cons_self)
    rw [begins]
    rintro ⟨⟩
    cases letter
  have stops : ∀ c, (second ++ digits).head? = some c → isLetter c = false := by
    intro c first
    rcases dollarSecond with rfl | rfl
    · exact not_isLetter_of_isDigit (spelled.eachDigit c (List.mem_of_head? first))
    · cases first
      rfl
  have cut := Text.takeWhile_append_stop spelled.eachLetter stops
  have unmarked : dropDollar text = letters ++ (second ++ digits) := by
    rw [whole, List.append_assoc, List.append_assoc, dropDollar_append dollarFirst lettersFirst]
  rw [lettersOf, digitsOf, unmarked, cut.1, cut.2, dropDollar_append dollarSecond digitsFirst]
  exact ⟨rfl, rfl⟩

theorem joined_parts (text : List Char) :
    ∃ first second, Dollar first ∧ Dollar second ∧
      text = first ++ lettersOf text ++ second ++ digitsOf text := by
  obtain ⟨first, dollarFirst, whole⟩ := exists_dropDollar text
  obtain ⟨second, dollarSecond, tail⟩ := exists_dropDollar ((dropDollar text).dropWhile isLetter)
  refine ⟨first, second, dollarFirst, dollarSecond, ?_⟩
  rw [digitsOf, List.append_assoc, ← tail, lettersOf, List.append_assoc,
    List.takeWhile_append_dropWhile, ← whole]

theorem read?_eq (text : List Char) :
    read? text =
      if lettersOf (Text.trim text) = [] ∨ 3 < (lettersOf (Text.trim text)).length then none
      else (Text.readNatural? (digitsOf (Text.trim text))).bind fun row =>
        if row = 0 ∨ maxRow + 1 < row ∨
            maxCol + 1 < columnNumber (lettersOf (Text.trim text)) then none
        else some ⟨row - 1, columnNumber (lettersOf (Text.trim text)) - 1⟩ := by
  rw [read?]
  cases number : Text.readNatural? (digitsOf (Text.trim text)) <;>
    rw [digitsOf] at number <;> dsimp only <;> rw [number] <;> rfl

/-- What a reference takes to be read, and the cell that it names. -/
theorem read?_eq_some_iff :
    read? text = some a ↔
      ∃ letters digits, Spelled letters digits (Text.trim text) ∧
        columnNumber letters ≤ maxCol + 1 ∧
        1 ≤ Text.naturalOf digits ∧ Text.naturalOf digits ≤ maxRow + 1 ∧
        a.col + 1 = columnNumber letters ∧ a.row + 1 = Text.naturalOf digits := by
  rw [read?_eq]
  constructor
  · intro done
    split at done
    · cases done
    rename_i lettered
    obtain ⟨someLetter, fewLetters⟩ := not_or.mp lettered
    obtain ⟨row, number, done⟩ := Option.bind_eq_some_iff.mp done
    obtain ⟨eachDigit, someDigit, value⟩ := Text.readNatural?_eq_some_iff.mp number
    split at done
    · cases done
    rename_i inSheet
    cases done
    have eachLetter : ∀ c ∈ lettersOf (Text.trim text), isLetter c = true :=
      fun c => List.mem_takeWhile_imp
    have counted := columnNumber_pos eachLetter someLetter
    refine ⟨_, _, ⟨eachLetter, someLetter, Nat.le_of_not_lt fewLetters, eachDigit, someDigit,
      joined_parts _⟩, ?_⟩
    rw [value]
    dsimp only
    omega
  · rintro ⟨letters, digits, spelled, columns, least, rows, col, row⟩
    obtain ⟨first, second⟩ := spelled.parts
    have number := Text.readNatural?_eq_some_iff.mpr ⟨spelled.eachDigit, spelled.someDigit, rfl⟩
    have lettered : ¬ (letters = [] ∨ 3 < letters.length) :=
      not_or.mpr ⟨spelled.someLetter, Nat.not_lt.mpr spelled.fewLetters⟩
    rw [first, second, if_neg lettered, number, Option.bind_some, if_neg (by omega), ← col, ← row]
    rfl

/-- The reference without blanks around it and without dollar signs, its letters made capitals and
the zeros before its row left off. -/
def canonical (reference : List Char) : List Char :=
  let plain := (Text.trim reference).filter (· != '$')
  (plain.takeWhile isLetter).map Char.toUpper ++ (plain.dropWhile isLetter).dropWhile (· == '0')

theorem filter_dollar_of_each {p : Char → Bool} (other : p '$' = false)
    (each : ∀ c ∈ text, p c = true) : text.filter (· != '$') = text := by
  rw [List.filter_eq_self]
  intro c member
  rw [bne_iff_ne]
  rintro rfl
  rw [each _ member] at other
  cases other

theorem Dollar.filter {mark : List Char} (dollar : Dollar mark) : mark.filter (· != '$') = [] := by
  rcases dollar with rfl | rfl <;> rfl

theorem Spelled.canonical_eq (spelled : Spelled letters digits (Text.trim text)) :
    canonical text = letters.map Char.toUpper ++ digits.dropWhile (· == '0') := by
  obtain ⟨first, second, dollarFirst, dollarSecond, whole⟩ := spelled.joined
  have plain : (Text.trim text).filter (· != '$') = letters ++ digits := by
    rw [whole, List.filter_append, List.filter_append, List.filter_append, dollarFirst.filter,
      dollarSecond.filter, filter_dollar_of_each (p := isLetter) rfl spelled.eachLetter,
      filter_dollar_of_each (p := Text.isDigit) rfl spelled.eachDigit, List.append_nil,
      List.nil_append]
  have stops : ∀ c, digits.head? = some c → isLetter c = false := fun c first =>
    not_isLetter_of_isDigit (spelled.eachDigit c (List.mem_of_head? first))
  have cut := Text.takeWhile_append_stop spelled.eachLetter stops
  rw [canonical, plain, cut.1, cut.2]

/-- The cell that a reference names is written by the canonical form of the reference. -/
theorem text_of_read? (done : read? text = some a) : a.text = canonical text := by
  obtain ⟨letters, digits, spelled, -, least, -, col, row⟩ := read?_eq_some_iff.1 done
  have column : columnLetters a.col = letters.map Char.toUpper := by
    rw [← columnLetters_columnNumber spelled.eachLetter spelled.someLetter, ← col,
      Nat.add_sub_cancel]
  rw [CellAddress.text, column, row, Text.natural_naturalOf spelled.eachDigit least,
    spelled.canonical_eq]

theorem solid_text (a : CellAddress) : Text.Solid a.text := by
  intro c member
  rcases List.mem_append.mp member with letter | digit
  · have bounds := isLetter_iff.1 (isLetter_of_mem_columnLetters a.col c letter)
    exact Text.isBlank_of_visible (by omega) (by omega)
  · have bounds := Text.isDigit_iff.mp (Text.isDigit_of_mem_natural digit)
    exact Text.isBlank_of_visible (by omega) (by omega)

theorem spelled_text (inBounds : a.InBounds) :
    Spelled (columnLetters a.col) (Text.natural (a.row + 1)) (Text.trim a.text) := by
  have eachLetter := isLetter_of_mem_columnLetters a.col
  have column : columnNumber (columnLetters a.col) ≤ maxCol + 1 := by
    rw [columnNumber_columnLetters]
    exact Nat.succ_le_succ inBounds.2
  have someDigit : Text.natural (a.row + 1) ≠ [] := by
    intro none
    have value := Text.naturalOf_natural (a.row + 1)
    rw [none] at value
    cases value
  refine ⟨eachLetter, columnLetters_ne_nil _, length_le_of_columnNumber eachLetter column,
    fun c => Text.isDigit_of_mem_natural, someDigit, [], [], .inl rfl, .inl rfl, ?_⟩
  rw [Text.trim_of_solid (solid_text a), List.nil_append, List.append_nil, CellAddress.text]

theorem read?_text (inBounds : a.InBounds) : read? a.text = some a := by
  refine read?_eq_some_iff.2 ⟨_, _, spelled_text inBounds, ?_⟩
  rw [columnNumber_columnLetters, Text.naturalOf_natural]
  have ⟨rows, columns⟩ := inBounds
  exact ⟨by omega, by omega, by omega, rfl, rfl⟩

theorem inBounds_of_read? (done : read? text = some a) : a.InBounds := by
  obtain ⟨letters, digits, -, columns, -, rows, col, row⟩ := read?_eq_some_iff.1 done
  exact ⟨by omega, by omega⟩

theorem parse_eq_ok_iff {reference : String} :
    parse reference = .ok a ↔ read? reference.toList = some a := by
  rw [parse]
  cases read? reference.toList <;> simp

theorem parse_eq_error_iff {reference : String} {e : Error} :
    parse reference = .error e ↔ read? reference.toList = none ∧ e = .cellAddress reference := by
  rw [parse]
  cases read? reference.toList <;> simp [eq_comm]

theorem exists_parse_iff (reference : String) :
    (∃ a, parse reference = .ok a) ↔
      ∃ letters digits, Spelled letters digits (Text.trim reference.toList) ∧
        columnNumber letters ≤ 16384 ∧
        1 ≤ Text.naturalOf digits ∧ Text.naturalOf digits ≤ 1048576 := by
  constructor
  · rintro ⟨a, done⟩
    obtain ⟨letters, digits, spelled, columns, least, rows, -⟩ :=
      read?_eq_some_iff.1 (parse_eq_ok_iff.1 done)
    exact ⟨letters, digits, spelled, columns, least, rows⟩
  · rintro ⟨letters, digits, spelled, columns, least, rows⟩
    have counted := columnNumber_pos spelled.eachLetter spelled.someLetter
    refine ⟨⟨Text.naturalOf digits - 1, columnNumber letters - 1⟩, ?_⟩
    exact parse_eq_ok_iff.2 (read?_eq_some_iff.2 ⟨letters, digits, spelled, columns, least,
      rows, Nat.sub_add_cancel counted, Nat.sub_add_cancel least⟩)

theorem columnNumber_lt_of_prefix (spelled : Spelled letters digits text) {front : List Char}
    (begins : front <+: letters) : columnNumber front < 2 ^ 32 := by
  have each : ∀ c ∈ front, isLetter c = true := fun c member =>
    spelled.eachLetter c (begins.subset member)
  have bound := columnNumber_le each (begins.length_le.trans spelled.fewLetters)
  omega

theorem place_of_read? (done : read? text = some a) (spelled : Spelled letters digits (Text.trim text)) :
    a.col + 1 = columnNumber letters ∧ a.row + 1 = Text.naturalOf digits ∧
      ∀ front, front <+: digits → Text.naturalOf front < 2 ^ 32 := by
  obtain ⟨own, ownDigits, ownSpelled, -, -, rows, col, row⟩ := read?_eq_some_iff.1 done
  obtain ⟨rfl, rfl⟩ : own = letters ∧ ownDigits = digits := by
    rw [← ownSpelled.parts.1, ← ownSpelled.parts.2]
    exact spelled.parts
  refine ⟨col, row, ?_⟩
  intro front begins
  have bound := Text.naturalOf_le_of_prefix begins
  rw [maxRow] at rows
  omega

/-- References name one cell when they have one canonical form. -/
theorem eq_iff_canonical_eq {first second : List Char} {b : CellAddress}
    (done : read? first = some a) (doneToo : read? second = some b) :
    a = b ↔ canonical first = canonical second := by
  rw [← text_of_read? done, ← text_of_read? doneToo]
  constructor
  · exact congrArg CellAddress.text
  · intro same
    have back := read?_text (inBounds_of_read? done)
    rw [same, read?_text (inBounds_of_read? doneToo)] at back
    exact (Option.some.inj back).symm

/-- A reference is read exactly when it is spelled as one and lies within the sheet, and no number on
the way to its column and its row outgrows 32 bits. Of all references to a cell its canonical form is
the one that is written for it. -/
theorem parse_canonical :
    (∀ reference, (∃ a, parse reference = .ok a) ↔
      ∃ letters digits, Spelled letters digits (Text.trim reference.toList) ∧
        columnNumber letters ≤ 16384 ∧
        1 ≤ Text.naturalOf digits ∧ Text.naturalOf digits ≤ 1048576) ∧
    (∀ reference fault, parse reference = .error fault → fault.kind = .format) ∧
    (∀ letters digits text, Spelled letters digits text →
      ∀ front, front <+: letters → columnNumber front < 2 ^ 32) ∧
    (∀ reference a letters digits, parse reference = .ok a →
      Spelled letters digits (Text.trim reference.toList) →
      a.col + 1 = columnNumber letters ∧ a.row + 1 = Text.naturalOf digits ∧
        ∀ front, front <+: digits → Text.naturalOf front < 2 ^ 32) ∧
    (∀ a : CellAddress, a.row ≤ 1048575 → a.col ≤ 16383 →
      parse (String.ofList a.text) = .ok a) ∧
    (∀ reference a, parse reference = .ok a → a.text = canonical reference.toList) ∧
    ∀ first second a b, parse first = .ok a → parse second = .ok b →
      (a = b ↔ canonical first.toList = canonical second.toList) := by
  refine ⟨exists_parse_iff, ?_, ?_, ?_, ?_, ?_, ?_⟩
  · intro reference fault refused
    obtain ⟨-, rfl⟩ := parse_eq_error_iff.mp refused
    rfl
  · intro letters digits text spelled front begins
    exact columnNumber_lt_of_prefix spelled begins
  · intro reference a letters digits done spelled
    exact place_of_read? (parse_eq_ok_iff.mp done) spelled
  · intro a rows columns
    rw [parse_eq_ok_iff, String.toList_ofList]
    exact read?_text ⟨rows, columns⟩
  · intro reference a done
    exact text_of_read? (parse_eq_ok_iff.mp done)
  · intro first second a b done doneToo
    exact eq_iff_canonical_eq (parse_eq_ok_iff.mp done) (parse_eq_ok_iff.mp doneToo)

theorem parse_canonical_of_last_cell :
    parse " $xfD$0001048576 " = .ok ⟨1048575, 16383⟩ ∧ parse "XFD1048576" = .ok ⟨1048575, 16383⟩ ∧
      canonical " $xfD$0001048576 ".toList = canonical "XFD1048576".toList := by
  have first : parse " $xfD$0001048576 " = .ok ⟨1048575, 16383⟩ := by decide +kernel
  have second : parse "XFD1048576" = .ok ⟨1048575, 16383⟩ := by decide +kernel
  obtain ⟨-, -, -, -, -, -, same⟩ := parse_canonical
  exact ⟨first, second, (same _ _ _ _ first second).mp rfl⟩

end ReportSheets.CellAddress
