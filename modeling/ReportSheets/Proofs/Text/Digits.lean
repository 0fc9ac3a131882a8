import Mathlib.Data.List.Induction
import Mathlib.Data.List.TakeWhile
import Mathlib.Tactic.IntervalCases
import ReportSheets.Text.Integer

namespace ReportSheets.Text

variable {c : Char} {digits : List Char}

theorem isDigit_iff : isDigit c = true ↔ 48 ≤ c.toNat ∧ c.toNat ≤ 57 := by
  rw [isDigit, Bool.and_eq_true, decide_eq_true_eq, decide_eq_true_eq]
  exact Iff.rfl

theorem digitValue_lt (digit : isDigit c = true) : digitValue c < 10 := by
  have bounds := isDigit_iff.1 digit
  show c.toNat - 48 < 10
  omega

theorem digitChar_digitValue (digit : isDigit c = true) : Nat.digitChar (digitValue c) = c := by
  have bounds := isDigit_iff.1 digit
  have back : c = Char.ofNat (48 + digitValue c) := by
    rw [show 48 + digitValue c = c.toNat from Nat.add_sub_cancel' bounds.1, Char.ofNat_toNat]
  have small := digitValue_lt digit
  generalize digitValue c = value at back small
  rw [back]
  interval_cases value <;> rfl

theorem naturalOf_eq (digits : List Char) : naturalOf digits = Nat.ofDigitChars 10 digits 0 := rfl

theorem readNatural?_eq_some_iff {n : Nat} :
    readNatural? digits = some n ↔
      (∀ c ∈ digits, isDigit c = true) ∧ digits ≠ [] ∧ naturalOf digits = n := by
  simp [readNatural?, List.isEmpty_eq_false_iff, and_comm, and_left_comm, and_assoc]

theorem naturalOf_append (front back : List Char) :
    naturalOf (front ++ back) = 10 ^ back.length * naturalOf front + naturalOf back := by
  rw [naturalOf_eq, Nat.ofDigitChars_append, Nat.ofDigitChars_eq_ofDigitChars_zero]
  rfl

theorem naturalOf_le_of_prefix {front : List Char} (begins : front <+: digits) :
    naturalOf front ≤ naturalOf digits := by
  obtain ⟨back, rfl⟩ := begins
  rw [naturalOf_append]
  have power : 1 ≤ 10 ^ back.length := Nat.one_le_pow _ _ (by decide)
  exact Nat.le_add_right_of_le (Nat.le_mul_of_pos_left _ power)

theorem naturalOf_zeros (count : Nat) : naturalOf (List.replicate count '0') = 0 := by
  rw [naturalOf_eq, Nat.ofDigitChars_replicate_zero, Nat.mul_zero]

theorem naturalOf_padded (width : Nat) (digits : List Char) :
    naturalOf (padded width digits) = naturalOf digits := by
  rw [padded, naturalOf_append, naturalOf_zeros, Nat.mul_zero, Nat.zero_add]

theorem length_padded (width : Nat) (digits : List Char) :
    (padded width digits).length = max width digits.length := by
  rw [padded, List.length_append, List.length_replicate]
  omega

theorem isDigit_of_mem_padded {width : Nat} (each : ∀ c ∈ digits, isDigit c = true) :
    ∀ c ∈ padded width digits, isDigit c = true := by
  intro c member
  rcases List.mem_append.mp member with zero | own
  · rw [List.eq_of_mem_replicate zero]
    decide
  · exact each c own

theorem naturalOf_natural (n : Nat) : naturalOf (natural n) = n :=
  Nat.ofDigitChars_toDigits (by decide) (by decide)

theorem isDigit_of_mem_natural {n : Nat} (member : c ∈ natural n) : isDigit c = true := by
  have digit := Nat.isDigit_of_mem_toDigits (by decide) (by decide) member
  rw [Char.isDigit, Bool.and_eq_true, decide_eq_true_eq, decide_eq_true_eq] at digit
  exact isDigit_iff.2 digit

theorem naturalOf_concat (digits : List Char) (c : Char) :
    naturalOf (digits ++ [c]) = 10 * naturalOf digits + digitValue c := by
  rw [naturalOf, List.foldl_append]
  rfl

theorem naturalOf_lt (each : ∀ c ∈ digits, isDigit c = true) :
    naturalOf digits < 10 ^ digits.length := by
  induction digits using List.reverseRecOn with
  | nil => decide
  | append_singleton digits c ih =>
    have front := ih fun d member => each d (List.mem_append_left [c] member)
    have last := digitValue_lt (each c (by simp))
    rw [naturalOf_concat, List.length_append, List.length_singleton, Nat.pow_succ]
    omega

theorem natural_digitValue (digit : isDigit c = true) : natural (digitValue c) = [c] := by
  rw [natural, Nat.toDigits_of_lt_base (digitValue_lt digit), digitChar_digitValue digit]

theorem natural_concat {n : Nat} (positive : 0 < n) (digit : isDigit c = true) :
    natural (10 * n + digitValue c) = natural n ++ [c] := by
  rw [← natural_digitValue digit, natural, natural, natural,
    Nat.toDigits_append_toDigits (by decide) positive (digitValue_lt digit)]

theorem exists_zeros (each : ∀ c ∈ digits, isDigit c = true) (some : digits ≠ []) :
    ∃ count, digits = List.replicate count '0' ++ natural (naturalOf digits) := by
  induction digits using List.reverseRecOn with
  | nil => exact absurd rfl some
  | append_singleton digits c ih =>
    have last := each c (by simp)
    rw [naturalOf_concat]
    by_cases empty : digits = []
    · refine ⟨0, ?_⟩
      subst empty
      show [c] = natural (10 * 0 + digitValue c)
      rw [Nat.mul_zero, Nat.zero_add, natural_digitValue last]
    obtain ⟨count, whole⟩ := ih (fun d member => each d (List.mem_append_left [c] member)) empty
    by_cases zero : naturalOf digits = 0
    · refine ⟨count + 1, ?_⟩
      rw [zero] at whole ⊢
      rw [Nat.mul_zero, Nat.zero_add, natural_digitValue last, whole, List.replicate_succ']
      rfl
    · refine ⟨count, ?_⟩
      rw [natural_concat (Nat.pos_of_ne_zero zero) last, ← List.append_assoc, ← whole]

theorem exists_leading_zeros (digits : List Char) :
    ∃ count, digits = List.replicate count '0' ++ digits.dropWhile (· == '0') := by
  have zeros : ∀ c ∈ digits.takeWhile (· == '0'), c = '0' := by
    intro c member
    exact beq_iff_eq.mp (List.mem_takeWhile_imp (p := (· == '0')) member)
  refine ⟨(digits.takeWhile (· == '0')).length, ?_⟩
  rw [← List.eq_replicate_iff.mpr ⟨rfl, zeros⟩, List.takeWhile_append_dropWhile]

theorem head?_dropWhile_zeros (digits : List Char) :
    (digits.dropWhile (· == '0')).head? ≠ some '0' := by
  intro zero
  have kept := List.head?_dropWhile_not (· == '0') digits
  rw [zero] at kept
  cases kept

theorem naturalOf_dropWhile_zeros (digits : List Char) :
    naturalOf (digits.dropWhile (· == '0')) = naturalOf digits := by
  obtain ⟨count, whole⟩ := exists_leading_zeros digits
  conv => rhs; rw [whole]
  rw [naturalOf_append, naturalOf_zeros, Nat.mul_zero, Nat.zero_add]

/-- Digits without the zeros in front are those of their number. -/
theorem natural_naturalOf (each : ∀ c ∈ digits, isDigit c = true) (positive : 1 ≤ naturalOf digits) :
    natural (naturalOf digits) = digits.dropWhile (· == '0') := by
  have first := head?_dropWhile_zeros digits
  have value := naturalOf_dropWhile_zeros digits
  have eachKept : ∀ c ∈ digits.dropWhile (· == '0'), isDigit c = true := fun c kept =>
    each c ((List.dropWhile_sublist _).subset kept)
  have some : digits.dropWhile (· == '0') ≠ [] := by
    intro none
    rw [none] at value
    rw [← value] at positive
    exact absurd positive (by decide)
  obtain ⟨count, whole⟩ := exists_zeros eachKept some
  rw [value] at whole
  cases count with
  | zero => exact whole.symm
  | succ count =>
    rw [whole] at first
    exact absurd rfl first

theorem padded_natural (each : ∀ c ∈ digits, isDigit c = true) (some : digits ≠ []) :
    padded digits.length (natural (naturalOf digits)) = digits := by
  obtain ⟨count, whole⟩ := exists_zeros each some
  have length := congrArg List.length whole
  rw [List.length_append, List.length_replicate] at length
  have missing : digits.length - (natural (naturalOf digits)).length = count := by omega
  rw [padded, missing, ← whole]

theorem sign_or_digit_of_mem_integer {n : Int} (member : c ∈ integer n) :
    c = '-' ∨ isDigit c = true := by
  rw [integer] at member
  split at member
  · rcases List.mem_cons.mp member with sign | digit
    · exact .inl sign
    · exact .inr (isDigit_of_mem_natural digit)
  · exact .inr (isDigit_of_mem_natural member)

/-- An integer is read from its own digits when it lies between the limits. -/
theorem readInteger?_integer {least greatest n : Int} (low : least ≤ n) (high : n ≤ greatest) :
    readInteger? least greatest (integer n) = some n := by
  have some : natural n.natAbs ≠ [] := Nat.toDigits_ne_nil
  have value : readNatural? (natural n.natAbs) = Option.some n.natAbs :=
    readNatural?_eq_some_iff.2 ⟨fun c => isDigit_of_mem_natural, some, naturalOf_natural _⟩
  have within : (decide (least ≤ n) && decide (n ≤ greatest)) = true := by simp [low, high]
  rw [integer]
  split
  · rename_i negative
    have whole : -Int.ofNat n.natAbs = n := by rw [Int.ofNat_eq_natCast]; omega
    rw [readInteger?, value, Option.map_some, whole, Option.filter_some, if_pos within]
  · rename_i positive
    have whole : Int.ofNat n.natAbs = n := by rw [Int.ofNat_eq_natCast]; omega
    obtain ⟨c, rest, digits⟩ := List.exists_cons_of_ne_nil some
    have first : isDigit c = true := isDigit_of_mem_natural (digits ▸ List.mem_cons_self)
    rw [digits] at value ⊢
    unfold readInteger?
    split
    · rename_i same
      rw [List.head_eq_of_cons_eq same] at first
      exact absurd first (by decide)
    · rename_i same
      rw [List.head_eq_of_cons_eq same] at first
      exact absurd first (by decide)
    · rw [value, Option.map_some, whole, Option.filter_some, if_pos within]

end ReportSheets.Text
