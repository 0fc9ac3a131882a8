import Mathlib.Data.List.TakeWhile
import Mathlib.Data.Rat.Defs
import Mathlib.Tactic.FieldSimp
import ReportSheets.Number.Rendering
import ReportSheets.Proofs.Text.Digits

namespace ReportSheets

variable {digits whole fraction : List Char} {least size : Nat}

def decimalOf (whole fraction : List Char) : ℚ :=
  Text.naturalOf (whole ++ fraction) / 10 ^ fraction.length

theorem exists_dropped_zeros (least : Nat) (digits : List Char) :
    ∃ count, digits = dropZeros least digits ++ List.replicate count '0' := by
  obtain ⟨count, whole⟩ := Text.exists_leading_zeros (digits.drop least).reverse
  refine ⟨count, ?_⟩
  have back := congrArg List.reverse whole
  rw [List.reverse_reverse, List.reverse_append, List.reverse_replicate] at back
  rw [dropZeros, List.append_assoc, ← back, List.take_append_drop]

theorem isDigit_of_mem_dropZeros (each : ∀ c ∈ digits, Text.isDigit c = true) :
    ∀ c ∈ dropZeros least digits, Text.isDigit c = true := by
  obtain ⟨count, whole⟩ := exists_dropped_zeros least digits
  intro c member
  exact each c (whole ▸ List.mem_append_left _ member)

theorem least_le_length_dropZeros (enough : least ≤ digits.length) :
    least ≤ (dropZeros least digits).length := by
  rw [dropZeros, List.length_append, List.length_take_of_le enough]
  exact Nat.le_add_right _ _

theorem getLast?_dropZeros (long : least < (dropZeros least digits).length) :
    (dropZeros least digits).getLast? ≠ some '0' := by
  have first := Text.head?_dropWhile_zeros (digits.drop least).reverse
  rw [dropZeros] at long ⊢
  cases kept : (digits.drop least).reverse.dropWhile (· == '0') with
  | nil =>
    rw [kept, List.reverse_nil, List.append_nil, List.length_take] at long
    omega
  | cons c rest =>
    rw [kept, List.head?_cons] at first
    rw [List.getLast?_append, List.getLast?_reverse, List.head?_cons, Option.some_or]
    exact first

theorem groupDigits_eq_nil_iff : groupDigits size digits = [] ↔ digits = [] := by
  cases digits with
  | nil => exact Iff.rfl
  | cons c rest =>
    rw [groupDigits]
    split <;> exact iff_of_false (List.cons_ne_nil _ _) (List.cons_ne_nil _ _)

theorem groupDigits_zero (digits : List Char) : groupDigits 0 digits = digits := by
  induction digits with
  | nil => rfl
  | cons c rest ih => rw [groupDigits, if_neg (fun grouped => grouped.1 rfl), ih]

theorem filter_groupDigits (each : ∀ c ∈ digits, c ≠ ',') :
    (groupDigits size digits).filter (· != ',') = digits := by
  induction digits with
  | nil => rfl
  | cons c rest ih =>
    obtain ⟨first, others⟩ := List.forall_mem_cons.mp each
    have keeps : (c != ',') = true := bne_iff_ne.mpr first
    rw [groupDigits]
    split
    · rw [List.filter_cons, if_pos keeps, List.filter_cons_of_neg (by decide), ih others]
    · rw [List.filter_cons, if_pos keeps, ih others]

theorem mem_groupDigits_iff {c : Char} (each : ∀ c ∈ digits, c ≠ ',') (other : c ≠ ',') :
    c ∈ groupDigits size digits ↔ c ∈ digits := by
  have kept : (groupDigits size digits).filter (· != ',') = digits := filter_groupDigits each
  conv => rhs; rw [← kept]
  rw [List.mem_filter]
  exact (and_iff_left (bne_iff_ne.mpr other)).symm

theorem ne_comma_of_isDigit {c : Char} (digit : Text.isDigit c = true) : c ≠ ',' := by
  rintro rfl
  cases digit

namespace DigitShape

variable {shape : DigitShape}

/-- The digits around the point are as many as the shape asks for. A zero beyond that stands at
neither end, but for the single one that is written where there are no digits at all. -/
structure Fits (shape : DigitShape) (whole fraction : List Char) : Prop where
  digits : ∀ c ∈ whole ++ fraction, Text.isDigit c = true
  visible : whole ++ fraction ≠ []
  leastWhole : shape.minWhole ≤ whole.length
  leadingZero : shape.minWhole < whole.length → whole.head? = some '0' →
    shape.minWhole = 0 ∧ whole = ['0'] ∧ fraction = []
  leastFraction : shape.minFraction ≤ fraction.length
  mostFraction : fraction.length ≤ shape.maxFraction
  trailingZero : shape.minFraction < fraction.length → fraction.getLast? ≠ some '0'

def wholeDigits (shape : DigitShape) (whole fraction : List Char) : List Char :=
  let padded := Text.padded shape.minWhole (whole.dropWhile (· == '0'))
  if padded = [] ∧ dropZeros shape.minFraction fraction = [] then ['0'] else padded

theorem naturalOf_wholeDigits :
    Text.naturalOf (shape.wholeDigits whole fraction) = Text.naturalOf whole := by
  have padded : Text.naturalOf (Text.padded shape.minWhole (whole.dropWhile (· == '0'))) =
      Text.naturalOf whole := by
    rw [Text.naturalOf_padded, Text.naturalOf_dropWhile_zeros]
  rw [wholeDigits]
  split
  · rename_i empty
    rw [empty.1] at padded
    exact padded
  · exact padded

theorem isDigit_of_mem_wholeDigits (each : ∀ c ∈ whole, Text.isDigit c = true) :
    ∀ c ∈ shape.wholeDigits whole fraction, Text.isDigit c = true := by
  intro c member
  rw [wholeDigits] at member
  split at member
  · rw [List.mem_singleton.mp member]
    decide
  · refine Text.isDigit_of_mem_padded ?_ c member
    intro c kept
    exact each c ((List.dropWhile_sublist _).subset kept)

theorem wholeDigits_append_ne_nil (shape : DigitShape) (whole fraction : List Char) :
    shape.wholeDigits whole fraction ++ dropZeros shape.minFraction fraction ≠ [] := by
  intro empty
  obtain ⟨noWhole, noFraction⟩ := List.append_eq_nil_iff.mp empty
  rw [wholeDigits] at noWhole
  split at noWhole
  · cases noWhole
  · rename_i shown
    exact shown ⟨noWhole, noFraction⟩

theorem layOut_eq (whole fraction : List Char) :
    shape.layOut whole fraction =
      groupDigits shape.grouping (shape.wholeDigits whole fraction) ++
        if dropZeros shape.minFraction fraction ≠ [] ∨ shape.barePoint = true then
          '.' :: dropZeros shape.minFraction fraction
        else [] := rfl

theorem layOut_ne_nil (shape : DigitShape) (whole fraction : List Char) :
    shape.layOut whole fraction ≠ [] := by
  rw [layOut_eq]
  intro empty
  obtain ⟨noWhole, noFraction⟩ := List.append_eq_nil_iff.mp empty
  refine wholeDigits_append_ne_nil shape whole fraction (List.append_eq_nil_iff.mpr ⟨?_, ?_⟩)
  · exact groupDigits_eq_nil_iff.1 noWhole
  · by_contra places
    rw [if_pos (.inl places)] at noFraction
    cases noFraction

theorem filter_layOut (each : ∀ c ∈ whole ++ fraction, Text.isDigit c = true) :
    (shape.layOut whole fraction).filter (· != ',') =
      shape.wholeDigits whole fraction ++
        if dropZeros shape.minFraction fraction ≠ [] ∨ shape.barePoint = true then
          '.' :: dropZeros shape.minFraction fraction
        else [] := by
  obtain ⟨wholeEach, fractionEach⟩ := List.forall_mem_append.mp each
  have plainWhole : ∀ c ∈ shape.wholeDigits whole fraction, c ≠ ',' := by
    intro c member
    exact ne_comma_of_isDigit (isDigit_of_mem_wholeDigits wholeEach c member)
  have plainFraction : (dropZeros shape.minFraction fraction).filter (· != ',') =
      dropZeros shape.minFraction fraction := by
    rw [List.filter_eq_self]
    intro c member
    exact bne_iff_ne.mpr (ne_comma_of_isDigit (isDigit_of_mem_dropZeros fractionEach c member))
  rw [layOut_eq, List.filter_append, filter_groupDigits plainWhole]
  split
  · rw [List.filter_cons_of_pos (by decide), plainFraction]
  · rfl

theorem fits_layOut (each : ∀ c ∈ whole ++ fraction, Text.isDigit c = true)
    (enough : shape.minFraction ≤ fraction.length) (places : fraction.length = shape.maxFraction) :
    shape.Fits (shape.wholeDigits whole fraction) (dropZeros shape.minFraction fraction) := by
  obtain ⟨wholeEach, fractionEach⟩ := List.forall_mem_append.mp each
  obtain ⟨count, cut⟩ := exists_dropped_zeros shape.minFraction fraction
  have stripped := Text.head?_dropWhile_zeros whole
  have length := Text.length_padded shape.minWhole (whole.dropWhile (· == '0'))
  refine ⟨?_, wholeDigits_append_ne_nil shape whole fraction, ?_, ?_,
    least_le_length_dropZeros enough, ?_, getLast?_dropZeros⟩
  · rw [List.forall_mem_append]
    exact ⟨isDigit_of_mem_wholeDigits wholeEach, isDigit_of_mem_dropZeros fractionEach⟩
  · rw [wholeDigits]
    split
    · rename_i empty
      rw [empty.1, List.length_nil] at length
      omega
    · omega
  · rw [wholeDigits]
    split
    · rename_i empty
      rw [empty.1, List.length_nil] at length
      intro _ _
      exact ⟨by omega, rfl, empty.2⟩
    · -- more digits than asked for are the digits of the number
      intro more zero
      have none : shape.minWhole - (whole.dropWhile (· == '0')).length = 0 := by omega
      rw [Text.padded, none, List.replicate_zero, List.nil_append] at zero
      exact absurd zero stripped
  · rw [← places]
    have lengths := congrArg List.length cut
    rw [List.length_append] at lengths
    omega

theorem decimalOf_layOut :
    decimalOf (shape.wholeDigits whole fraction) (dropZeros shape.minFraction fraction) =
      decimalOf whole fraction := by
  obtain ⟨count, cut⟩ := exists_dropped_zeros shape.minFraction fraction
  have length : fraction.length = (dropZeros shape.minFraction fraction).length + count := by
    conv => lhs; rw [cut]
    rw [List.length_append, List.length_replicate]
  have value : Text.naturalOf fraction =
      10 ^ count * Text.naturalOf (dropZeros shape.minFraction fraction) := by
    conv => lhs; rw [cut]
    rw [Text.naturalOf_append, Text.naturalOf_zeros, List.length_replicate, Nat.add_zero]
  rw [decimalOf, decimalOf, Text.naturalOf_append, Text.naturalOf_append, naturalOf_wholeDigits,
    value, length]
  push_cast
  rw [pow_add]
  field_simp

end DigitShape

end ReportSheets
