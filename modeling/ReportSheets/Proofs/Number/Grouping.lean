import ReportSheets.Proofs.Number.Overflow
import ReportSheets.Proofs.Text.Words

namespace ReportSheets

variable {size : Nat} {digits text : List Char}

theorem groupDigits_cons_full {c : Char} {rest : List Char} (positive : 0 < size) (more : rest ≠ [])
    (full : rest.length % size = 0) :
    groupDigits size (c :: rest) = c :: ',' :: groupDigits size rest :=
  if_pos ⟨positive.ne', more, full⟩

theorem groupDigits_cons_open {c : Char} {rest : List Char} (short : rest.length % size ≠ 0) :
    groupDigits size (c :: rest) = c :: groupDigits size rest :=
  if_neg fun grouped => short grouped.2.2

theorem groupDigits_singleton (size : Nat) (c : Char) : groupDigits size [c] = [c] :=
  if_neg fun grouped => grouped.2.1 rfl

theorem groupDigits_of_length_le (most : digits.length ≤ size) :
    groupDigits size digits = digits := by
  induction digits with
  | nil => rfl
  | cons c rest ih =>
    by_cases last : rest = []
    · rw [last, groupDigits_singleton]
    · have short : rest.length < size := most
      have begun : rest.length % size ≠ 0 := by
        rw [Nat.mod_eq_of_lt short]
        exact List.length_eq_zero_iff.not.mpr last
      rw [groupDigits_cons_open begun, ih (Nat.le_of_lt short)]

/-- Digits in front of full groups are grouped as they are without these. -/
theorem groupDigits_append {front back : List Char} (positive : 0 < size) (some : front ≠ [])
    (more : back ≠ []) (whole : size ∣ back.length) :
    groupDigits size (front ++ back) = groupDigits size front ++ ',' :: groupDigits size back := by
  induction front with
  | nil => exact absurd rfl some
  | cons c rest ih =>
    rw [List.cons_append]
    by_cases last : rest = []
    · rw [last, List.nil_append, groupDigits_singleton,
        groupDigits_cons_full positive more (Nat.mod_eq_zero_of_dvd whole)]
      rfl
    · have later : rest ++ back ≠ [] := List.append_ne_nil_of_left_ne_nil last back
      have same : (rest ++ back).length % size = rest.length % size := by
        obtain ⟨count, length⟩ := whole
        rw [List.length_append, length, Nat.add_mul_mod_self_left]
      by_cases full : rest.length % size = 0
      · rw [groupDigits_cons_full positive later (same.trans full),
          groupDigits_cons_full positive last full, ih last]
        rfl
      · rw [groupDigits_cons_open (same ▸ full), groupDigits_cons_open full, ih last]
        rfl

/-- Digits in groups as they are counted from the right: the first, which is not empty, may be shorter
than the others. -/
structure DigitGroups (size : Nat) where
  first : List Char
  others : List (List Char)
  visible : first ≠ []
  most : first.length ≤ size
  full : ∀ group ∈ others, group.length = size

namespace DigitGroups

def ungrouped (groups : DigitGroups size) : List Char := groups.first ++ groups.others.flatten

def written (groups : DigitGroups size) : List Char :=
  groups.first ++ groups.others.flatMap (',' :: ·)

theorem size_pos (groups : DigitGroups size) : 0 < size :=
  Nat.lt_of_lt_of_le (List.length_pos_of_ne_nil groups.visible) groups.most

def push (c : Char) (groups : DigitGroups size) : DigitGroups size :=
  if room : groups.first.length < size then
    { groups with first := c :: groups.first, visible := List.cons_ne_nil _ _, most := room }
  else {
    first := [c]
    others := groups.first :: groups.others
    visible := List.cons_ne_nil _ _
    most := groups.size_pos
    full := List.forall_mem_cons.mpr
      ⟨Nat.le_antisymm groups.most (Nat.le_of_not_lt room), groups.full⟩ }

theorem ungrouped_push (c : Char) (groups : DigitGroups size) :
    (groups.push c).ungrouped = c :: groups.ungrouped := by
  rw [push]
  split <;> rfl

theorem exists_ungrouped_eq (positive : 0 < size) (visible : digits ≠ []) :
    ∃ groups : DigitGroups size, groups.ungrouped = digits := by
  induction digits with
  | nil => exact absurd rfl visible
  | cons c rest ih =>
    by_cases last : rest = []
    · subst last
      exact ⟨⟨[c], [], visible, positive, List.forall_mem_nil _⟩, rfl⟩
    · obtain ⟨groups, rfl⟩ := ih last
      exact ⟨groups.push c, groups.ungrouped_push c⟩

theorem ne_nil_of_mem (groups : DigitGroups size) :
    ∀ group ∈ groups.first :: groups.others, group ≠ [] := by
  refine List.forall_mem_cons.mpr ⟨groups.visible, ?_⟩
  intro group member
  have length := groups.full group member
  exact List.ne_nil_of_length_pos (length ▸ groups.size_pos)

theorem length_flatten {others : List (List Char)} (full : ∀ group ∈ others, group.length = size) :
    others.flatten.length = others.length * size := by
  rw [List.length_flatten, List.map_congr_left full, List.map_const', List.sum_replicate_nat]

theorem groupDigits_ungrouped (groups : DigitGroups size) :
    groupDigits size groups.ungrouped = groups.written := by
  obtain ⟨first, others, visible, most, full⟩ := groups
  show groupDigits size (first ++ others.flatten) = first ++ others.flatMap (',' :: ·)
  induction others generalizing first with
  | nil => rw [List.flatten_nil, List.flatMap_nil, List.append_nil, groupDigits_of_length_le most]
  | cons next others ih =>
    obtain ⟨length, fullLater⟩ := List.forall_mem_cons.mp full
    have positive : 0 < size := Nat.lt_of_lt_of_le (List.length_pos_of_ne_nil visible) most
    have visibleNext : next ≠ [] := List.ne_nil_of_length_pos (length ▸ positive)
    have whole : size ∣ (next ++ others.flatten).length := by
      rw [List.length_append, length, length_flatten fullLater]
      exact Nat.dvd_add (dvd_refl size) (Nat.dvd_mul_left size others.length)
    rw [List.flatten_cons, groupDigits_append positive visible
      (List.append_ne_nil_of_left_ne_nil visibleNext _) whole, groupDigits_of_length_le most,
      ih next visibleNext (Nat.le_of_eq length) fullLater]
    rfl

theorem pieces_written (groups : DigitGroups size) (plain : ∀ c ∈ groups.ungrouped, c ≠ ',') :
    Text.pieces (· == ',') groups.written = groups.first :: groups.others := by
  refine Text.pieces_joined ?_
  intro group member comma
  have inDigits : ',' ∈ (groups.first :: groups.others).flatten :=
    List.mem_flatten.mpr ⟨group, member, comma⟩
  exact plain ',' inDigits rfl

end DigitGroups

structure CommaGrouped (size : Nat) (digits text : List Char) : Prop where
  kept : text.filter (· != ',') = digits
  groups : digits = [] ∧ text = [] ∨
    ∃ first others, Text.pieces (· == ',') text = first :: others ∧
      1 ≤ first.length ∧ first.length ≤ size ∧ ∀ group ∈ others, group.length = size
  leading : text.head? ≠ some ','
  trailing : text.getLast? ≠ some ','
  double : ¬ [',', ','] <:+: text

theorem DigitGroups.commaGrouped (groups : DigitGroups size)
    (plain : ∀ c ∈ groups.ungrouped, c ≠ ',') : CommaGrouped size groups.ungrouped groups.written := by
  have cut := groups.pieces_written plain
  have shown : [] ∉ Text.pieces (· == ',') groups.written := by
    rw [cut]
    exact fun empty => groups.ne_nil_of_mem [] empty rfl
  obtain ⟨leading, trailing, double⟩ := Text.marks_apart shown
  refine ⟨?_, .inr ⟨_, _, cut, ?_, groups.most, groups.full⟩, leading, trailing, double⟩
  · rw [← groups.groupDigits_ungrouped, filter_groupDigits plain]
  · exact List.length_pos_of_ne_nil groups.visible

theorem commaGrouped_groupDigits (positive : 0 < size) (plain : ∀ c ∈ digits, c ≠ ',') :
    CommaGrouped size digits (groupDigits size digits) := by
  by_cases empty : digits = []
  · subst empty
    show CommaGrouped size [] []
    exact ⟨rfl, .inl ⟨rfl, rfl⟩, by decide, by decide, by decide⟩
  · obtain ⟨groups, rfl⟩ := DigitGroups.exists_ungrouped_eq positive empty
    rw [groups.groupDigits_ungrouped]
    exact groups.commaGrouped plain

/-- The groups leave no choice where the commas stand. -/
theorem CommaGrouped.eq_groupDigits (grouped : CommaGrouped size digits text) :
    text = groupDigits size digits := by
  rcases grouped.groups with ⟨rfl, rfl⟩ | ⟨first, others, cut, visible, most, full⟩
  · rfl
  · let groups : DigitGroups size :=
      ⟨first, others, List.ne_nil_of_length_pos visible, most, full⟩
    have ofDigits : groups.ungrouped = digits := by
      rw [← grouped.kept]
      show (first :: others).flatten = _
      rw [← cut, Text.flatten_pieces]
      rfl
    rw [← ofDigits, groups.groupDigits_ungrouped]
    exact Text.eq_joined_of_pieces cut

/-- A digit at its index in a text of `length` digits. A comma stands before it where the digits from
the end of the leading group up to it are whole groups. -/
def commaBefore (size length : Nat) (digit : Char × Nat) : List Char :=
  if 0 < digit.2 ∧ (digit.2 + size - length % size) % size = 0 then [',', digit.1] else [digit.1]

/-- The digits before an index are whole groups behind the leading group just where those from the
index on are whole groups. -/
theorem index_mod_eq_zero_iff (positive : 0 < size) (index rest : Nat) :
    (index + size - (index + rest) % size) % size = 0 ↔ rest % size = 0 := by
  have lead : (index + rest) % size < size := Nat.mod_lt _ positive
  have groups := Nat.div_add_mod (index + rest) size
  have whole : size ∣ index + size - (index + rest) % size + rest := by
    refine ⟨(index + rest) / size + 1, ?_⟩
    rw [Nat.mul_add, Nat.mul_one]
    omega
  rw [← Nat.dvd_iff_mod_eq_zero, ← Nat.dvd_iff_mod_eq_zero]
  constructor
  · intro before
    exact (Nat.dvd_add_right before).mp whole
  · intro after
    exact (Nat.dvd_add_left after).mp whole

theorem groupDigits_eq_cons_flatMap (positive : 0 < size) (c : Char) (rest : List Char)
    (start : Nat) :
    groupDigits size (c :: rest) =
      c :: (rest.zipIdx (start + 1)).flatMap (commaBefore size (start + 1 + rest.length)) := by
  induction rest generalizing c start with
  | nil => exact groupDigits_singleton size c
  | cons d rest ih =>
    have later := ih d (start + 1)
    have place := index_mod_eq_zero_iff positive (start + 1) (rest.length + 1)
    have total : start + 1 + (rest.length + 1) = start + 1 + 1 + rest.length := by omega
    rw [List.zipIdx_cons, List.flatMap_cons, List.length_cons]
    by_cases full : (rest.length + 1) % size = 0
    · have comma : commaBefore size (start + 1 + (rest.length + 1)) (d, start + 1) = [',', d] :=
        if_pos ⟨Nat.succ_pos start, place.mpr full⟩
      rw [groupDigits_cons_full positive (List.cons_ne_nil d rest) full, comma, total, later]
      rfl
    · have plain : commaBefore size (start + 1 + (rest.length + 1)) (d, start + 1) = [d] :=
        if_neg fun comma => full (place.mp comma.2)
      rw [groupDigits_cons_open full, plain, total, later]
      rfl

/-- The same commas are found from the left, by the index of each digit. -/
theorem groupDigits_eq_flatMap (positive : 0 < size) (digits : List Char) :
    groupDigits size digits = digits.zipIdx.flatMap (commaBefore size digits.length) := by
  cases digits with
  | nil => rfl
  | cons c rest =>
    have total : 0 + 1 + rest.length = rest.length + 1 := by omega
    rw [groupDigits_eq_cons_flatMap positive c rest 0, total]
    rfl

/-- A number is shown with its whole digits in groups of the size that the pattern sets. -/
theorem DigitShape.ShowsNumber.commaGrouped {shape : DigitShape} {body : List Char}
    (shows : shape.ShowsNumber body) (grouped : 0 < shape.grouping) :
    ∃ whole text rest, body = text ++ rest ∧ CommaGrouped shape.grouping whole text ∧
      ',' ∉ rest := by
  obtain ⟨whole, rest, split, each, plain⟩ := shows.commas
  refine ⟨whole, _, rest, split, commaGrouped_groupDigits grouped ?_, plain⟩
  exact fun c member => ne_comma_of_isDigit (each c member)

/-- Digits without a group size stay as they are. With one, commas are put between them, none at an
end and no two together, so that behind a first group of at most that size every group has it, and
they can be put in no other way. -/
theorem only_groupDigits_commaGrouped (each : ∀ c ∈ digits, Text.isDigit c = true) :
    groupDigits 0 digits = digits ∧
      ∀ size, 0 < size →
        CommaGrouped size digits (groupDigits size digits) ∧
          ∀ text, CommaGrouped size digits text → text = groupDigits size digits := by
  refine ⟨groupDigits_zero digits, ?_⟩
  intro size positive
  constructor
  · exact commaGrouped_groupDigits positive fun c member => ne_comma_of_isDigit (each c member)
  · intro text grouped
    exact grouped.eq_groupDigits

/-- A first group that is short, one that is full, and groups counted from the wrong end. -/
theorem only_groupDigits_commaGrouped_of_eight_digits :
    let digits := "12345678".toList
    (∀ c ∈ digits, Text.isDigit c = true) ∧ 0 < 3 ∧ 0 < 4 ∧
      groupDigits 0 digits = digits ∧
      CommaGrouped 3 digits "12,345,678".toList ∧
      CommaGrouped 4 digits "1234,5678".toList ∧
      ¬ CommaGrouped 3 digits "123,456,78".toList := by
  intro digits
  have each : ∀ c ∈ digits, Text.isDigit c = true := by simp [digits, Text.isDigit]
  have inThrees : groupDigits 3 digits = "12,345,678".toList := by decide
  have inFours : groupDigits 4 digits = "1234,5678".toList := by decide
  obtain ⟨ungrouped, grouped⟩ := only_groupDigits_commaGrouped each
  obtain ⟨threes, only⟩ := grouped 3 (by decide)
  have fours := (grouped 4 (by decide)).1
  rw [inThrees] at threes only
  rw [inFours] at fours
  refine ⟨each, by decide, by decide, ungrouped, threes, fours, ?_⟩
  intro fromLeft
  exact absurd (only _ fromLeft) (by decide)

end ReportSheets
