import Mathlib.Data.List.Infix
import Mathlib.Tactic.IntervalCases
import ReportSheets.Xml.Numbered

namespace ReportSheets.Xml

def written (text : List Char) : List Char := writeNumbered (maskNumbered text)

/-- What a text begins with is read as a character: digits with a sign in front, which something
closes that stands in the file with a low line first. -/
inductive Misread : List Char → Prop
  | signed {low d : Char} {rest : List Char} (digit : (Text.hexDigit? low).isSome)
      (closed : d = '_' ∨ isUnwritable d) :
      Misread ('_' :: 'x' :: '0' :: '0' :: '+' :: low :: d :: rest)

def Faithful (text : List Char) : Prop := ∀ rest, rest <:+ text → ¬ Misread rest

variable {c d high low : Char} {text rest more : List Char}

theorem lt_of_unwritable (unwritable : isUnwritable c) : c.toNat < 0x20 := by
  simp only [isUnwritable, Bool.and_eq_true, decide_eq_true_eq] at unwritable
  exact unwritable.1.1

theorem numbered_of_lt (small : c.toNat < 0x20 ∨ c = '_') :
    ∃ high low, numbered c = ['_', 'x', '0', '0', high, low, '_'] ∧
      characterOfHex? high low = some c := by
  rcases small with small | rfl
  · obtain ⟨n, code⟩ : ∃ n, c.toNat = n := ⟨_, rfl⟩
    have made : c = Char.ofNat n := by rw [← code, Char.ofNat_toNat]
    rw [code] at small
    subst made
    clear code
    interval_cases n <;> exact ⟨_, _, rfl, rfl⟩
  · exact ⟨_, _, rfl, rfl⟩

def Plain (c : Char) : Prop := c ≠ '_' ∧ isUnwritable c = false

instance (c : Char) : Decidable (Plain c) := inferInstanceAs (Decidable (_ ∧ _))

theorem bounds_of_hexDigit? {n : Nat} (digit : Text.hexDigit? c = some n) :
    n < 16 ∧ 0x30 ≤ c.toNat ∧ c.toNat ≤ 0x66 := by
  unfold Text.hexDigit? Text.isDigit Text.digitValue at digit
  simp only [Bool.and_eq_true, decide_eq_true_eq, Char.le_def, UInt32.le_iff_toNat_le] at digit
  split at digit
  · rename_i decimal
    obtain ⟨least, greatest⟩ : 0x30 ≤ c.toNat ∧ c.toNat ≤ 0x39 := decimal
    have value : c.toNat - 0x30 = n := Option.some.inj digit
    omega
  · split at digit
    · rename_i small
      obtain ⟨least, greatest⟩ : 0x61 ≤ c.toNat ∧ c.toNat ≤ 0x66 := small
      have value : c.toNat - 0x61 + 10 = n := Option.some.inj digit
      omega
    · split at digit
      · rename_i capital
        obtain ⟨least, greatest⟩ : 0x41 ≤ c.toNat ∧ c.toNat ≤ 0x46 := capital
        have value : c.toNat - 0x41 + 10 = n := Option.some.inj digit
        omega
      · cases digit

theorem plain_of_hexDigit (digit : (Text.hexDigit? c).isSome) : Plain c := by
  obtain ⟨n, isDigit⟩ := Option.isSome_iff_exists.mp digit
  obtain ⟨-, least, greatest⟩ := bounds_of_hexDigit? isDigit
  constructor
  · rintro rfl
    revert digit
    decide
  · have low : ¬ c.toNat < 0x20 := by omega
    simp [isUnwritable, low]

theorem digits_of_coded (coded : (characterOfHex? high low).isSome) :
    (high = '+' ∨ (Text.hexDigit? high).isSome) ∧ (Text.hexDigit? low).isSome := by
  unfold characterOfHex? at coded
  cases second : Text.hexDigit? low with
  | none => simp [second] at coded
  | some _ =>
    refine ⟨?_, rfl⟩
    by_cases sign : high = '+'
    · exact .inl sign
    · cases first : Text.hexDigit? high with
      | none => simp [second, sign, first] at coded
      | some _ => exact .inr rfl

theorem plain_of_coded (coded : (characterOfHex? high low).isSome) : Plain high ∧ Plain low := by
  obtain ⟨first, second⟩ := digits_of_coded coded
  refine ⟨?_, plain_of_hexDigit second⟩
  rcases first with rfl | digit
  · exact ⟨by decide, by decide⟩
  · exact plain_of_hexDigit digit

theorem beginsNumbered_cons (begun : beginsNumbered (c :: rest) = true) : c = '_' := by
  unfold beginsNumbered at begun
  split at begun
  · rename_i shape
    cases shape
    rfl
  · cases begun

theorem beginsNumbered_iff :
    beginsNumbered ('_' :: 'x' :: '0' :: '0' :: high :: low :: rest) = true ↔
      (Text.hexDigit? high).isSome ∧ (Text.hexDigit? low).isSome := by
  have zero : (Text.hexDigit? '0').isSome = true := by decide
  simp only [beginsNumbered, List.all_cons, zero, List.all_nil, Bool.true_and, Bool.and_true,
    Bool.and_eq_true]

theorem written_cons (c : Char) (rest : List Char) :
    written (c :: rest) =
      (if isUnwritable c ∨ beginsNumbered (c :: rest) then numbered c else [c]) ++
        written rest := by
  rw [written, maskNumbered, writeNumbered, List.flatMap_append]
  congr 1
  by_cases begun : beginsNumbered (c :: rest) = true
  · rw [if_pos begun, if_pos (.inr begun), beginsNumbered_cons begun]
    decide
  · rw [if_neg begun, List.flatMap_cons, List.flatMap_nil, List.append_nil]
    simp only [begun, Bool.false_eq_true, or_false]

theorem written_plain (plain : Plain c) (rest : List Char) :
    written (c :: rest) = c :: written rest := by
  have bare : ¬ (isUnwritable c ∨ beginsNumbered (c :: rest)) := by
    rintro (unwritable | begun)
    · rw [plain.2] at unwritable
      cases unwritable
    · exact plain.1 (beginsNumbered_cons begun)
  rw [written_cons, if_neg bare, List.singleton_append]

theorem eq_cons_of_written (stands : written text = c :: more) (other : c ≠ '_') :
    ∃ rest, text = c :: rest ∧ written rest = more := by
  cases text with
  | nil => cases stands
  | cons first rest =>
    rw [written_cons] at stands
    split at stands
    · cases stands
      exact absurd rfl other
    · cases stands
      exact ⟨rest, rfl, rfl⟩

/-- A low line in a file is one, or the beginning of a character's number. -/
theorem of_written_eq_low_line (stands : written text = '_' :: more) :
    ∃ c rest, text = c :: rest ∧ (c = '_' ∨ isUnwritable c) := by
  cases text with
  | nil => cases stands
  | cons first rest =>
    refine ⟨first, rest, rfl, ?_⟩
    by_cases plain : first = '_' ∨ isUnwritable first
    · exact plain
    · rw [written_plain ⟨fun same => plain (.inl same), by simpa using fun un => plain (.inr un)⟩]
        at stands
      cases stands
      exact .inl rfl

theorem written_eq_low_line (first : c = '_' ∨ isUnwritable c) (rest : List Char) :
    ∃ more, written (c :: rest) = '_' :: more := by
  rw [written_cons]
  split
  · exact ⟨_, rfl⟩
  · rename_i bare
    rcases first with rfl | unwritable
    · exact ⟨_, rfl⟩
    · exact absurd (.inl unwritable) bare

theorem readNumbered_cons (other : c ≠ '_') (rest : List Char) :
    readNumbered (c :: rest) = c :: readNumbered rest := by
  rw [readNumbered]
  rintro high low later rfl
  exact absurd rfl other

theorem readNumbered_coded (coded : characterOfHex? high low = some c) (rest : List Char) :
    readNumbered ('_' :: 'x' :: '0' :: '0' :: high :: low :: '_' :: rest) =
      c :: readNumbered rest := by
  rw [readNumbered, coded]

theorem readNumbered_low_line
    (bare : ∀ high low later, rest = 'x' :: '0' :: '0' :: high :: low :: '_' :: later →
      characterOfHex? high low = none) :
    readNumbered ('_' :: rest) = '_' :: readNumbered rest := by
  rw [readNumbered.eq_def]
  split
  · rename_i shape
    cases shape
    rw [bare _ _ _ rfl]
  · rename_i shape
    cases shape
    rfl
  · rename_i shape
    cases shape

/-- What a text begins with is read as it was, whatever becomes of the rest. -/
theorem readNumbered_of_not_misread (kept : ¬ Misread (c :: rest)) :
    readNumbered (written (c :: rest)) = c :: readNumbered (written rest) := by
  rw [written_cons]
  by_cases byNumber : isUnwritable c ∨ beginsNumbered (c :: rest)
  · have small : c.toNat < 0x20 ∨ c = '_' := by
      rcases byNumber with unwritable | begun
      · exact .inl (lt_of_unwritable unwritable)
      · exact .inr (beginsNumbered_cons begun)
    obtain ⟨high, low, shape, coded⟩ := numbered_of_lt small
    rw [if_pos byNumber, shape]
    exact readNumbered_coded coded (written rest)
  rw [if_neg byNumber, List.singleton_append]
  by_cases line : c = '_'
  · subst line
    -- Were digits read here they would stand in the text too, up to the low line that closes them.
    refine readNumbered_low_line fun high low later stands => ?_
    by_contra coded
    replace coded : (characterOfHex? high low).isSome := Option.isSome_iff_ne_none.mpr coded
    obtain ⟨plainHigh, plainLow⟩ := plain_of_coded coded
    obtain ⟨_, rfl, afterX⟩ := eq_cons_of_written stands (by decide)
    obtain ⟨_, rfl, afterZero⟩ := eq_cons_of_written afterX (by decide)
    obtain ⟨_, rfl, afterZeros⟩ := eq_cons_of_written afterZero (by decide)
    obtain ⟨_, rfl, afterHigh⟩ := eq_cons_of_written afterZeros plainHigh.1
    obtain ⟨_, rfl, afterLow⟩ := eq_cons_of_written afterHigh plainLow.1
    obtain ⟨d, after, rfl, closes⟩ := of_written_eq_low_line afterLow
    obtain ⟨rfl | first, second⟩ := digits_of_coded coded
    · exact kept (.signed second closes)
    · exact byNumber (.inr (beginsNumbered_iff.2 ⟨first, second⟩))
  · exact readNumbered_cons line _

theorem ne_low_line_of_signed (coded : characterOfHex? '+' low = some c) : c ≠ '_' := by
  rintro rfl
  obtain ⟨n, digit, made⟩ := Option.bind_eq_some_iff.mp coded
  have small := (bounds_of_hexDigit? digit).1
  rw [if_pos rfl] at made
  have made := Option.some.inj made
  interval_cases n <;> revert made <;> decide

theorem readNumbered_of_misread (spoilt : Misread text) : readNumbered (written text) ≠ text := by
  obtain @⟨low, d, rest, digit, closed⟩ := spoilt
  obtain ⟨n, value⟩ := Option.isSome_iff_exists.mp digit
  have means : characterOfHex? '+' low = some (Char.ofNat n) := by
    rw [characterOfHex?, value]
    rfl
  have apart : ¬ (isUnwritable '_' ∨
      beginsNumbered ('_' :: 'x' :: '0' :: '0' :: '+' :: low :: d :: rest)) := by
    rw [beginsNumbered_iff]
    rintro (unwritable | ⟨sign, -⟩)
    · revert unwritable
      decide
    · revert sign
      decide
  -- The digits are written as they are, and what comes next begins with a low line.
  obtain ⟨more, number⟩ := written_eq_low_line closed rest
  have file : written ('_' :: 'x' :: '0' :: '0' :: '+' :: low :: d :: rest) =
      '_' :: 'x' :: '0' :: '0' :: '+' :: low :: '_' :: more := by
    rw [written_cons, if_neg apart, List.singleton_append, written_plain (by decide),
      written_plain (by decide), written_plain (by decide), written_plain (by decide),
      written_plain (plain_of_hexDigit digit), number]
  rw [file, readNumbered_coded means]
  intro same
  exact ne_low_line_of_signed means (List.cons.inj same).1

theorem faithful_cons_iff : Faithful (c :: rest) ↔ ¬ Misread (c :: rest) ∧ Faithful rest := by
  simp only [Faithful, List.suffix_cons_iff, forall_eq_or_imp]

/-- A text is read as it was exactly when there is nothing in it that is misread. -/
theorem readNumbered_written_iff : readNumbered (written text) = text ↔ Faithful text := by
  induction text with
  | nil =>
    have nothing : Faithful [] := by
      rintro rest within spoilt
      rw [List.suffix_nil.mp within] at spoilt
      cases spoilt
    simp only [nothing, iff_true]
    rfl
  | cons c rest ih =>
    rw [faithful_cons_iff, ← ih]
    by_cases spoilt : Misread (c :: rest)
    · simp [readNumbered_of_misread spoilt, spoilt]
    · simp [readNumbered_of_not_misread spoilt, spoilt]

theorem faithful_of_plain (plain : ∀ c ∈ text, Plain c) : Faithful text := by
  intro rest within spoilt
  replace plain : ∀ c ∈ rest, Plain c := fun c member => plain c (within.subset member)
  cases spoilt with
  | signed digit closed => exact absurd rfl (plain _ List.mem_cons_self).1

theorem writable_numbered (unwritable : isUnwritable c) :
    ∀ d ∈ numbered c, isUnwritable d = false := by
  obtain ⟨high, low, shape, coded⟩ := numbered_of_lt (.inl (lt_of_unwritable unwritable))
  obtain ⟨plainHigh, plainLow⟩ := plain_of_coded (Option.isSome_of_eq_some coded)
  rw [shape]
  simp only [List.forall_mem_cons, List.not_mem_nil, IsEmpty.forall_iff, implies_true,
    plainHigh.2, plainLow.2]
  decide

theorem writable_writeNumbered (text : List Char) :
    ∀ d ∈ writeNumbered text, isUnwritable d = false := by
  intro d member
  obtain ⟨c, -, made⟩ := List.mem_flatMap.mp member
  split at made
  · rename_i unwritable
    exact writable_numbered unwritable d made
  · rename_i writable
    rw [List.mem_singleton.mp made]
    exact Bool.eq_false_iff.mpr writable

theorem writeNumbered_of_writable (writable : ∀ c ∈ text, isUnwritable c = false) :
    writeNumbered text = text := by
  have each : ∀ c ∈ text, (if isUnwritable c then numbered c else [c]) = [c] := by
    intro c member
    rw [writable c member, if_neg Bool.false_ne_true]
  rw [writeNumbered, List.flatMap_congr each, List.flatMap_singleton']

end ReportSheets.Xml
