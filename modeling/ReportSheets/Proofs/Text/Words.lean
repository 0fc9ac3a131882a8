import ReportSheets.Proofs.Text.Blank

namespace ReportSheets.Text

def Solid (text : List Char) : Prop := ∀ c ∈ text, isBlank c = false

instance (text : List Char) : Decidable (Solid text) :=
  List.decidableBAll (fun c => isBlank c = false) text

def upToBlank (text : List Char) : List Char := text.takeWhile fun c => !isBlank c

variable {word text rest : List Char} {c : Char}

theorem takeWhile_append_stop {p : Char → Bool}
    (each : ∀ c ∈ word, p c = true) (stops : ∀ c, rest.head? = some c → p c = false) :
    (word ++ rest).takeWhile p = word ∧ (word ++ rest).dropWhile p = rest := by
  have here : rest.takeWhile p = [] ∧ rest.dropWhile p = rest := by
    cases rest with
    | nil => exact ⟨rfl, rfl⟩
    | cons c rest =>
      have stop := stops c rfl
      exact ⟨List.takeWhile_cons_of_neg (by simp [stop]), List.dropWhile_cons_of_neg (by simp [stop])⟩
  rw [List.takeWhile_append_of_pos each, List.dropWhile_append_of_pos each, here.1, here.2,
    List.append_nil]
  exact ⟨rfl, rfl⟩

theorem solid_upToBlank (text : List Char) : Solid (upToBlank text) := by
  intro c member
  simpa using List.mem_takeWhile_imp member

theorem upToBlank_of_solid (solid : Solid text) : upToBlank text = text := by
  rw [upToBlank, List.takeWhile_eq_self_iff]
  intro c member
  rw [solid c member]
  rfl

theorem upToBlank_eq_self_iff : upToBlank text = text ↔ Solid text := by
  refine ⟨fun same => ?_, upToBlank_of_solid⟩
  rw [← same]
  exact solid_upToBlank text

theorem Solid.trimmed (solid : Solid text) : Trimmed text :=
  ⟨fun c first => solid c (List.mem_of_head? first), fun c last => solid c (List.mem_of_getLast? last)⟩

theorem trim_of_solid (solid : Solid text) : trim text = text :=
  trim_eq_of_padded (padded_self text) solid.trimmed

theorem Solid.append (solid : Solid word) (after : Solid rest) : Solid (word ++ rest) := by
  intro c member
  rcases List.mem_append.mp member with inWord | inRest
  · exact solid c inWord
  · exact after c inRest

theorem beq_false_of_not_mem {mark : Char} (missing : mark ∉ text) :
    ∀ c ∈ text, (c == mark) = false := by
  intro c member
  rw [beq_eq_false_iff_ne]
  rintro rfl
  exact missing member

theorem pieces_unmarked {α : Type} {p : α → Bool} {word : List α}
    (unmarked : ∀ c ∈ word, p c = false) : pieces p word = [word] := by
  induction word with
  | nil => rfl
  | cons c word ih =>
    have later := ih fun d member => unmarked d (List.mem_cons_of_mem c member)
    simp only [pieces, unmarked c List.mem_cons_self, later]
    rfl

theorem pieces_append {α : Type} {p : α → Bool} {front rest piece : List α} {more : List (List α)}
    (unmarked : ∀ a ∈ front, p a = false) (cut : pieces p rest = piece :: more) :
    pieces p (front ++ rest) = (front ++ piece) :: more := by
  induction front with
  | nil => exact cut
  | cons a front ih =>
    have first := unmarked a List.mem_cons_self
    have later := ih fun b member => unmarked b (List.mem_cons_of_mem _ member)
    simp only [List.cons_append, pieces, first, later, Bool.false_eq_true, if_false]

theorem pieces_append_cons {α : Type} {p : α → Bool} {c : α} (mark : p c = true)
    (front rest : List α) : pieces p (front ++ c :: rest) = pieces p front ++ pieces p rest := by
  induction front with
  | nil => simp [pieces, mark]
  | cons d front ih =>
    rw [List.cons_append, pieces, pieces, ih]
    by_cases marked : p d = true
    · rw [if_pos marked, if_pos marked, List.cons_append]
    · obtain ⟨piece, more, cut⟩ := List.exists_cons_of_ne_nil (pieces_ne_nil p front)
      rw [if_neg marked, if_neg marked, cut]
      rfl

theorem pieces_append_mark {α : Type} {p : α → Bool} {word rest : List α} {c : α}
    (unmarked : ∀ c ∈ word, p c = false) (mark : p c = true) :
    pieces p (word ++ c :: rest) = word :: pieces p rest := by
  rw [pieces_append_cons mark, pieces_unmarked unmarked]
  rfl

theorem flatten_pieces {α : Type} (p : α → Bool) (text : List α) :
    (pieces p text).flatten = text.filter fun c => !p c := by
  induction text with
  | nil => rfl
  | cons c text ih =>
    rw [pieces]
    by_cases marked : p c = true
    · rw [if_pos marked, List.flatten_cons, List.nil_append, ih, List.filter_cons_of_neg]
      simp [marked]
    · obtain ⟨piece, more, cut⟩ := List.exists_cons_of_ne_nil (pieces_ne_nil p text)
      rw [cut, List.flatten_cons] at ih
      rw [if_neg marked, cut, List.filter_cons_of_pos (by simp [marked]), ← ih]
      rfl

theorem eq_joined_of_pieces {mark : Char} {first : List Char} {others : List (List Char)}
    (cut : pieces (· == mark) text = first :: others) :
    text = first ++ others.flatMap (mark :: ·) := by
  induction text generalizing first others with
  | nil =>
    cases cut
    rfl
  | cons c text ih =>
    obtain ⟨piece, more, later⟩ := List.exists_cons_of_ne_nil (pieces_ne_nil (· == mark) text)
    rw [pieces, later] at cut
    by_cases marked : (c == mark) = true
    · rw [if_pos marked] at cut
      cases cut
      rw [beq_iff_eq.mp marked, List.flatMap_cons, List.nil_append, List.cons_append, ← ih later]
    · rw [if_neg marked] at cut
      cases cut
      rw [List.cons_append, ← ih later]

theorem pieces_joined {mark : Char} {first : List Char} {others : List (List Char)}
    (unmarked : ∀ piece ∈ first :: others, mark ∉ piece) :
    pieces (· == mark) (first ++ others.flatMap (mark :: ·)) = first :: others := by
  induction others generalizing first with
  | nil =>
    rw [List.flatMap_nil, List.append_nil]
    exact pieces_unmarked (beq_false_of_not_mem (unmarked first List.mem_cons_self))
  | cons next others ih =>
    obtain ⟨own, more⟩ := List.forall_mem_cons.mp unmarked
    rw [List.flatMap_cons, List.cons_append,
      pieces_append_mark (beq_false_of_not_mem own) (beq_self_eq_true mark), ih more]

/-- No mark stands at an end of a text or beside another mark where each piece shows something. -/
theorem marks_apart {mark : Char} (shown : [] ∉ pieces (· == mark) text) :
    text.head? ≠ some mark ∧ text.getLast? ≠ some mark ∧ ¬ [mark, mark] <:+: text := by
  have cut (front rest : List Char) : pieces (· == mark) (front ++ mark :: rest) =
      pieces (· == mark) front ++ pieces (· == mark) rest :=
    pieces_append_cons (p := (· == mark)) (beq_self_eq_true mark) front rest
  refine ⟨?_, ?_, ?_⟩
  · intro first
    obtain ⟨rest, rfl⟩ := List.head?_eq_some_iff.mp first
    rw [← List.nil_append (mark :: rest), cut] at shown
    exact shown List.mem_cons_self
  · intro last
    obtain ⟨front, rfl⟩ := List.getLast?_eq_some_iff.mp last
    rw [cut] at shown
    exact shown (List.mem_append_right _ List.mem_cons_self)
  · rintro ⟨front, rest, rfl⟩
    rw [List.append_assoc, List.cons_append, List.singleton_append, cut,
      ← List.nil_append (mark :: rest), cut] at shown
    exact shown (List.mem_append_right _ List.mem_cons_self)

theorem cutAt_unmarked {mark : Char} (missing : mark ∉ word) : cutAt mark word = none := by
  induction word with
  | nil => rfl
  | cons c word ih =>
    rw [List.mem_cons, not_or] at missing
    rw [cutAt, if_neg (Ne.symm missing.1), ih missing.2]
    rfl

theorem cutAt_append_mark {mark : Char} (missing : mark ∉ word) (rest : List Char) :
    cutAt mark (word ++ mark :: rest) = some (word, rest) := by
  induction word with
  | nil => simp [cutAt]
  | cons c word ih =>
    rw [List.mem_cons, not_or] at missing
    rw [List.cons_append, cutAt, if_neg (Ne.symm missing.1), ih missing.2]
    rfl

def joinedAt (mark : Char) (first : List Char) : Option (List Char) → List Char
  | none => first
  | some rest => first ++ mark :: rest

theorem cutAt_joinedAt {mark : Char} {first : List Char} (missing : mark ∉ first)
    (rest : Option (List Char)) :
    cutAt mark (joinedAt mark first rest) = rest.map fun rest => (first, rest) := by
  cases rest with
  | none => exact cutAt_unmarked missing
  | some rest => exact cutAt_append_mark missing rest

theorem exists_joinedAt (mark : Char) (text : List Char) :
    ∃ first rest, mark ∉ first ∧ text = joinedAt mark first rest := by
  by_cases member : mark ∈ text
  · obtain ⟨first, rest, whole, missing⟩ := List.eq_append_cons_of_mem member
    exact ⟨first, some rest, missing, whole⟩
  · exact ⟨text, none, member, rfl⟩

theorem words_of_solid (solid : Solid word) (some : word ≠ []) : words word = [word] := by
  simp [words, pieces_unmarked solid, some]

theorem words_append_blank (solid : Solid word) (some : word ≠ []) (blank : isBlank c = true) :
    words (word ++ c :: rest) = word :: words rest := by
  simp [words, pieces_append_mark solid blank, some]

theorem words_blank_append {left : List Char} (before : Blank left) (text : List Char) :
    words (left ++ text) = words text := by
  induction left with
  | nil => rfl
  | cons c left ih =>
    have first := before c List.mem_cons_self
    have later := ih fun d member => before d (List.mem_cons_of_mem c member)
    rw [← later]
    simp [words, pieces, first]

inductive Parted : List (List Char) → List Char → Prop
  | last (word : List Char) : Parted [word] word
  | word (word : List Char) {gap text : List Char} {more : List (List Char)} (blank : Blank gap)
      (apart : gap ≠ []) (later : Parted more text) : Parted (word :: more) (word ++ gap ++ text)

theorem Parted.words_append {parts : List (List Char)} {right : List Char}
    (parted : Parted parts text) (each : ∀ word ∈ parts, Solid word ∧ word ≠ [])
    (after : Blank right) : words (text ++ right) = parts := by
  induction parted with
  | last word =>
    obtain ⟨solid, some⟩ := each word List.mem_cons_self
    cases right with
    | nil => rw [List.append_nil, words_of_solid solid some]
    | cons c right =>
      have others : Blank right := fun d member => after d (List.mem_cons_of_mem c member)
      have none := words_blank_append others []
      rw [List.append_nil] at none
      rw [words_append_blank solid some (after c List.mem_cons_self), none]
      rfl
  | @word word gap text more blank apart later ih =>
    obtain ⟨solid, some⟩ := each word List.mem_cons_self
    obtain ⟨c, gap, rfl⟩ := List.exists_cons_of_ne_nil apart
    have others : Blank gap := fun d member => blank d (List.mem_cons_of_mem c member)
    rw [List.append_assoc, List.append_assoc, List.cons_append,
      words_append_blank solid some (blank c List.mem_cons_self), words_blank_append others,
      ih fun next member => each next (List.mem_cons_of_mem word member)]

theorem Parted.words_eq {parts : List (List Char)} {whole : List Char} (parted : Parted parts text)
    (each : ∀ word ∈ parts, Solid word ∧ word ≠ []) (padded : Padded text whole) :
    words whole = parts := by
  obtain ⟨left, right, before, after, rfl⟩ := padded
  rw [List.append_assoc, words_blank_append before, parted.words_append each after]

theorem parted_flatMap (word : List Char) (more : List (List Char)) :
    Parted (word :: more) (word ++ more.flatMap (' ' :: ·)) := by
  induction more generalizing word with
  | nil =>
    rw [List.flatMap_nil, List.append_nil]
    exact .last word
  | cons next more ih =>
    have blank : Blank [' '] := by decide
    have parted := Parted.word word blank (List.cons_ne_nil _ _) (ih next)
    rwa [List.append_assoc] at parted

/-- What follows a word up to the next blank belongs to it. -/
theorem exists_words_append (solid : Solid word) (some : word ≠ []) (text : List Char) :
    ∃ more, words (word ++ text) = (word ++ upToBlank text) :: more := by
  have whole := solid.append (solid_upToBlank text)
  have visible : word ++ upToBlank text ≠ [] := List.append_ne_nil_of_left_ne_nil some _
  have split : word ++ text = (word ++ upToBlank text) ++ text.dropWhile (fun c => !isBlank c) := by
    rw [List.append_assoc, upToBlank, List.takeWhile_append_dropWhile]
  rw [split]
  cases left : text.dropWhile (fun c => !isBlank c) with
  | nil =>
    rw [List.append_nil]
    exact ⟨[], words_of_solid whole visible⟩
  | cons c rest =>
    have blank : isBlank c = true := by
      have first := List.head?_dropWhile_not (fun c => !isBlank c) text
      rw [left] at first
      simpa using first
    exact ⟨words rest, words_append_blank whole visible blank⟩

end ReportSheets.Text
